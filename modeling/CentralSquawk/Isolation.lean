import CentralSquawk.Requests.Routing

/-!
# Which server a written code came from

The worker fills `SSRCache_` from the client it chose at the top of its iteration;
the main thread writes from it under a mode it resolves later, and nothing empties
the cache in between. The provenance below names, for every entry of the cache and
of the sweep's copy, the server it was received from. The record of worlds knows no
server, only which entries were already held when the world last changed.
-/

namespace CentralSquawk
open Library

/-- A code passed to `SetSquawk`, or a true flag passed to `PublishDupe`. -/
structure Write where
  mode : NetworkMode
  origin : Option Text

/-- What is written in a world was handed out by the world's own server. -/
def Write.isolated (w : Write) : Prop := w.mode ≠ .offline → w.origin = some (endpointFor w.mode)

instance (w : Write) : Decidable w.isolated := inferInstanceAs (Decidable (_ → _))

structure Provenance where
  cache : Text → Option Text := fun _ => none
  snapshot : Text → Option Text := fun _ => none
  writes : List Write := []

/-- The mode last resolved other than Offline, and the entries left over from before it was. -/
structure Worlds where
  world : NetworkMode := .offline
  cache : Text → Bool := fun _ => false
  snapshot : Text → Bool := fun _ => false

section
variable [Secret]

/-- The entries that a step stores in `SSRCache_` get `value`. -/
def received {α : Type} (value : α) (held : Text → α) (s : System) : Action → Text → α
  | .worker (.fetched reply) =>
    match (fetchAssignedSSR s.plugin.printError reply).parsed with
    | some _ => fun _ => value
    | none => held
  | .worker (.assignReplied reply) =>
    match assignReply s.worker.sending reply with
    | .ok _ => fun callsign => if callsign = s.worker.sending then value else held callsign
    | .error _ => held
  | _ => held

def copied {α : Type} (cache snapshot : Text → α) : Action → Text → α
  | .main .applyAssignments => cache
  | _ => snapshot

def written (p : Provenance) (s : System) : Action → List Write
  | .main (.flight fp answer) =>
    let applied := applyFlight s.main.snapshot s.plugin.bridge fp answer
    (applied.squawk.toList.map Prod.fst ++ (applied.dupe.filter Prod.snd).toList.map Prod.fst).map
      (fun callsign => ⟨s.plugin.resolveMode, p.snapshot callsign⟩)
  | _ => []

def Provenance.next (p : Provenance) (s : System) (a : Action) : Provenance :=
  { cache := received s.worker.builtFor p.cache s a
    snapshot := copied p.cache p.snapshot a
    writes := p.writes ++ written p s a }

def Worlds.next (h : Worlds) (s : System) (a : Action) : Worlds :=
  let mode := (plugin.effect s a).plugin.resolveMode
  if mode = .offline ∨ mode = h.world then
    { h with
      cache := received false h.cache s a
      snapshot := copied h.cache h.snapshot a }
  else { world := mode, cache := fun _ => true, snapshot := fun _ => true }

def changing : Machine (System × Worlds) Action := plugin.observe {} Worlds.next

def traced : Machine ((System × Worlds) × Provenance) Action :=
  changing.observe {} (fun p x a => p.next x.1 a)

def stores (s : System) : Action → Bool
  | .worker (.fetched reply) => (fetchAssignedSSR s.plugin.printError reply).parsed.isSome
  | .worker (.assignReplied reply) =>
    match assignReply s.worker.sending reply with
    | .ok _ => true
    | .error _ => false
  | _ => false

/-- A reply is stored only in the world its iteration began in, and no sweep visits a flight whose
entry is left over from another world. -/
def WorldsApart (x : System × Worlds) (a : Action) : Prop :=
  (stores x.1 a = true → x.1.worker.mode = x.2.world) ∧
    match a with
    | .main (.flight fp _) => x.1.plugin.resolveMode ≠ .offline → ∀ callsign ∈ fp.key,
        callsign ∈ x.1.main.snapshot.keys → x.2.snapshot callsign = false
    | _ => True

instance (x : System × Worlds) (a : Action) : Decidable (WorldsApart x a) := by
  unfold WorldsApart
  split <;> infer_instance

end

/-! ### What a sweep writes is in its snapshot -/

theorem dupeOf_mem {snapshot : Cache} {callsign : Text} (marked : dupeOf snapshot callsign = true) :
    callsign ∈ snapshot.keys := by
  unfold dupeOf at marked
  split at marked
  · rename_i found
    exact AList.mem_keys.mp (AList.lookup_isSome.mp (Option.isSome_iff_exists.mpr ⟨_, found⟩))
  · contradiction

theorem squawkFor_mem {snapshot : Cache} {fp : FlightPlan} {callsign code : Text}
    (wanted : squawkFor snapshot fp callsign = some code) : callsign ∈ snapshot.keys := by
  obtain ⟨-, info, found, -⟩ := squawkFor_eq_some.mp wanted
  exact AList.mem_keys.mp (AList.lookup_isSome.mp (Option.isSome_iff_exists.mpr ⟨info, found⟩))

theorem written_mem {p : Provenance} {s : System} {fp : FlightPlan} {answer : BridgePublisher.Answer}
    {w : Write} (member : w ∈ written p s (.main (.flight fp answer))) :
    ∃ callsign ∈ s.main.snapshot.keys, fp.key = some callsign ∧
      w = ⟨s.plugin.resolveMode, p.snapshot callsign⟩ := by
  obtain ⟨callsign, passed, rfl⟩ := List.mem_map.mp member
  rcases List.mem_append.mp passed with squawk | dupe
  · obtain ⟨⟨other, code⟩, set, rfl⟩ := List.mem_map.mp squawk
    obtain ⟨named, wanted⟩ := applyFlight_squawk_eq_some.mp (Option.mem_toList.mp set)
    exact ⟨other, squawkFor_mem wanted, named, rfl⟩
  · obtain ⟨⟨other, flag⟩, set, rfl⟩ := List.mem_map.mp dupe
    obtain ⟨published, raised⟩ := Option.filter_eq_some_iff.mp (Option.mem_toList.mp set)
    obtain ⟨named, marked⟩ := applyFlight_dupe_eq_some.mp published
    exact ⟨other, dupeOf_mem (marked.trans raised), named, rfl⟩

/-! ### Worlds that are kept apart stay apart -/

def FromWorld (origin : Text → Option Text) (left : Text → Bool) (cache : Cache) (world : NetworkMode) : Prop :=
  ∀ callsign ∈ cache.keys, left callsign = false → origin callsign = some (endpointFor world)

structure Apart (s : System) (h : Worlds) (p : Provenance) : Prop where
  world : s.plugin.resolveMode ≠ .offline → s.plugin.resolveMode = h.world
  cache : FromWorld p.cache h.cache s.plugin.ssrCache h.world
  snapshot : FromWorld p.snapshot h.snapshot s.main.snapshot h.world
  writes : ∀ w ∈ p.writes, w.isolated

section
variable [Secret]

theorem received_cases {s : System} {a : Action} {callsign : Text}
    (member : callsign ∈ (plugin.effect s a).plugin.ssrCache.keys) :
    (stores s a = true ∧ ∀ {α : Type} (value : α) (held : Text → α), received value held s a callsign = value) ∨
    (callsign ∈ s.plugin.ssrCache.keys ∧
      ∀ {α : Type} (value : α) (held : Text → α), received value held s a callsign = held callsign) := by
  cases a with
  | elapse duration => exact Or.inr ⟨member, fun _ _ => rfl⟩
  | main a =>
    rw [effect_main, mainEffect_ssrCache] at member
    exact Or.inr ⟨member, fun _ _ => rfl⟩
  | worker a =>
    cases a with
    | fetched reply =>
      cases parsed : (fetchAssignedSSR s.plugin.printError reply).parsed with
      | none =>
        simp only [effect_worker, workerEffect, parsed] at member
        exact Or.inr ⟨member, fun _ _ => by simp [received, parsed]⟩
      | some snapshot =>
        exact Or.inl ⟨by simp [stores, parsed], fun _ _ => by simp [received, parsed]⟩
    | assignReplied reply =>
      cases answered : assignReply s.worker.sending reply with
      | error message =>
        simp only [effect_worker, workerEffect, applyAssignReply, answered] at member
        exact Or.inr ⟨member, fun _ _ => by simp [received, answered]⟩
      | ok info =>
        by_cases own : callsign = s.worker.sending
        · exact Or.inl ⟨by simp [stores, answered], fun _ _ => by simp [received, answered, own]⟩
        · simp only [effect_worker, workerEffect, applyAssignReply, answered] at member
          have earlier := ((AList.mem_insert _).mp (AList.mem_keys.mpr member)).resolve_left own
          exact Or.inr ⟨AList.mem_keys.mp earlier, fun _ _ => by simp [received, answered, own]⟩
    | _ => exact Or.inr ⟨member, fun _ _ => rfl⟩

theorem stores_pc {s : System} {a : Action} (on : plugin.enabled s a = true) (stored : stores s a = true) :
    Requests.hasMode s.worker.pc = true := by
  unfold stores at stored
  split at stored
  · rw [(enabled_worker on).2.1]
    rfl
  · rw [(enabled_worker on).2.1]
    rfl
  · contradiction

theorem fromWorld_received {s : System} {h : Worlds} {p : Provenance} {a : Action}
    (stored : stores s a = true → s.worker.builtFor = some (endpointFor h.world))
    (before : FromWorld p.cache h.cache s.plugin.ssrCache h.world) :
    FromWorld (received s.worker.builtFor p.cache s a) (received false h.cache s a)
      (plugin.effect s a).plugin.ssrCache h.world := by
  intro callsign member fresh
  rcases received_cases member with ⟨new, gets⟩ | ⟨old, keeps⟩
  · rw [gets]
    exact stored new
  · rw [keeps] at fresh ⊢
    exact before callsign old fresh

theorem fromWorld_copied {s : System} {h : Worlds} {p : Provenance} (a : Action)
    (cache : FromWorld p.cache h.cache s.plugin.ssrCache h.world)
    (snapshot : FromWorld p.snapshot h.snapshot s.main.snapshot h.world) :
    FromWorld (copied p.cache p.snapshot a) (copied h.cache h.snapshot a) (plugin.effect s a).main.snapshot
      h.world := by
  cases a with
  | elapse duration => exact snapshot
  | worker a =>
    rw [effect_worker, workerEffect_main]
    exact snapshot
  | main a =>
    cases a with
    | applyAssignments => exact cache
    | _ => exact snapshot

omit [Secret] in
theorem written_isolated {s : System} {h : Worlds} {p : Provenance} {a : Action} (apart : Apart s h p)
    (worlds : WorldsApart (s, h) a) : ∀ w ∈ written p s a, w.isolated := by
  intro w member
  unfold written at member
  split at member
  · obtain ⟨callsign, held, named, rfl⟩ := written_mem member
    intro online
    have fresh := worlds.2 online callsign named held
    show p.snapshot callsign = some (endpointFor s.plugin.resolveMode)
    rw [apart.world online]
    exact apart.snapshot callsign held fresh
  · contradiction

theorem apart_step {s : System} {h : Worlds} {p : Provenance} {a : Action} (on : plugin.enabled s a = true)
    (client : Requests.hasMode s.worker.pc = true →
      s.worker.builtFor = some (endpointFor s.worker.mode) ∧ s.worker.mode ≠ .offline)
    (worlds : WorldsApart (s, h) a) (apart : Apart s h p) :
    Apart (plugin.effect s a) (h.next s a) (p.next s a) := by
  have stored : stores s a = true → s.worker.builtFor = some (endpointFor h.world) := by
    intro stored
    rw [← worlds.1 stored]
    exact (client (stores_pc on stored)).1
  have writes : ∀ w ∈ (p.next s a).writes, w.isolated := by
    intro w member
    rcases List.mem_append.mp member with earlier | this
    · exact apart.writes w earlier
    · exact written_isolated apart worlds w this
  simp only [Worlds.next]
  split
  · rename_i stays
    exact ⟨stays.resolve_left, fromWorld_received stored apart.cache,
      fromWorld_copied a apart.cache apart.snapshot, writes⟩
  · -- In another world, all that is held is left over.
    exact ⟨fun _ => rfl, fun _ _ left => by contradiction, fun _ _ left => by contradiction, writes⟩

/-- While worlds are kept apart, every write comes from the world it is made in. -/
theorem writes_isolated (actions : List Action) (worlds : changing.Along WorldsApart actions) :
    ∀ w ∈ (traced.run actions).2.writes, w.isolated := by
  have start : Apart plugin.init {} {} := by
    refine ⟨?_, ?_, ?_, ?_⟩
    all_goals simp [plugin, FromWorld, Plugin.resolveMode, resolveMode]
  have all := Machine.Invariant.alongObserved (m := changing) (P := fun x => Apart x.1.1 x.1.2 x.2)
    Requests.client.observed.observed start
    (fun x p a on here client before => apart_step on client here before) actions worlds
  exact all.writes

end

/-! ### Runs -/

def flightPlan : FlightPlan := { callsign := some (text "AFR1234") }

def codeOf (ssr : Text) : Reply :=
  .answered 200 (.json (.object [(text "AFR1234", .object [(text "ssr", .string ssr)])]))

def sweepFlight : List Action := [.main (.flight flightPlan {}), .main .forgetAbsent]

/-- The worker's first iteration in a simulator session fetches a code, and the next `OnTimer` finds
an ordinary connection. -/
def leavingSimulator : List Action :=
  onTimer CONNECTION_TYPE_SWEATBOX tower ++ [.main .servePicture] ++ iteration ++
    [.worker (.fetched (codeOf (text "7201")))] ++ onTimer CONNECTION_TYPE_DIRECT tower ++ sweepFlight

/-- The same, but the sweep waits for a snapshot of the live server. -/
def leftSimulator : List Action :=
  onTimer CONNECTION_TYPE_SWEATBOX tower ++ [.main .servePicture] ++ iteration ++
    [.worker (.fetched (codeOf (text "7201")))] ++ onTimer CONNECTION_TYPE_SWEATBOX tower ++ sweepFlight ++
    [.main .servePicture, .main (.capture []), .main .storePicture, .main .storeReady,
      .main .storeServed] ++ onTimer CONNECTION_TYPE_DIRECT tower ++ [.main .forgetAbsent] ++
    iterations 50 (codeOf (text "4321")) ++ onTimer CONNECTION_TYPE_DIRECT tower ++ sweepFlight

set_option maxRecDepth 100000 in
/-- A code of the simulator server is written on the live network. -/
theorem simulator_code_written_live :
    ¬ ∀ (secret : Secret) (actions : List Action), ∀ w ∈ ((@traced secret).run actions).2.writes,
      w.isolated := by
  intro all
  have crossed : ¬ ∀ w ∈ ((@traced parisSecret).run leavingSimulator).2.writes, w.isolated := by
    decide +kernel
  exact crossed (all parisSecret leavingSimulator)

set_option maxRecDepth 100000 in
theorem writes_isolated_after_simulator :
    ((@traced parisSecret).run leftSimulator).2.writes.map Write.mode = [.sweatbox, .live] ∧
      ∀ w ∈ ((@traced parisSecret).run leftSimulator).2.writes, w.isolated :=
  ⟨by decide +kernel, @writes_isolated parisSecret leftSimulator (by decide +kernel)⟩

end CentralSquawk
