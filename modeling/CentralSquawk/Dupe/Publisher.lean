import CentralSquawk.BridgePublisher
import CentralSquawk.Library.Machine

/-!
# The life of the publisher

The pointer to the bridge, the provider, the field and the conflict are set on
different ticks by different branches. The history keeps every call and every
displayed error in order, the handles the bridge gave out, and how many ticks
failed to attach.
-/

namespace CentralSquawk.Dupe
open Library BridgePublisher

inductive Use where
  | onTimer (r : Registration)
  | publishDupe (callsign : Text) (dupe : Bool) (answer : Answer)
  | forgetAbsent (present : Finset Text)
  | destroy (status : EsbStatus)

structure Life where
  publisher : BridgePublisher := {}
  alive : Bool := true

def lifetime : Machine Life Use where
  init := {}
  enabled l _ := l.alive
  effect l u :=
    match u with
    | .onTimer r => { l with publisher := (l.publisher.onTimer r).publisher }
    | .publishDupe callsign dupe answer =>
      { l with publisher := (l.publisher.publishDupe callsign dupe answer).publisher }
    | .forgetAbsent present => { l with publisher := l.publisher.forgetAbsent present }
    | .destroy _ => { l with alive := false }

inductive Output where
  | called (call : BridgeCall)
  | displayed (text : Text)
  deriving DecidableEq

def Output.registers : Output → Bool
  | .called ⟨_, .registerProvider, _⟩ => true
  | _ => false

def Output.unregisters : Output → Bool
  | .called ⟨_, .unregisterProvider _, _⟩ => true
  | _ => false

/-- The provider and the field a value is written through. -/
def writesThrough : BridgeFunction → Option (EsbProvider × EsbFieldId)
  | .setAc provider _ field | .clearAc provider _ field => some (provider, field)
  | _ => none

def outputs (p : BridgePublisher) : Use → List Output
  | .onTimer r => (p.onTimer r).calls.map .called ++ (p.onTimer r).displayed.map .displayed
  | .publishDupe callsign dupe answer => (p.publishDupe callsign dupe answer).calls.map .called
  | .forgetAbsent _ => []
  | .destroy status => (p.destroy status).map .called

structure History where
  outputs : List Output := []
  handles : List Nat := []
  misses : Nat := 0

def History.next (h : History) (l : Life) (u : Use) : History :=
  { outputs := h.outputs ++ Dupe.outputs l.publisher u
    handles := h.handles ++
      match u with
      | .onTimer r =>
        if ⟨true, .registerProvider, ESB_OK⟩ ∈ (l.publisher.onTimer r).calls then [r.handle] else []
      | _ => []
    misses := h.misses +
      match u with
      | .onTimer r => if l.publisher.misses r then 1 else 0
      | _ => 0 }

def lived : Machine (Life × History) Use := lifetime.observe {} History.next

structure Safe (l : Life) (h : History) : Prop where
  resolved : l.publisher.dupeField ≠ ESB_FIELD_NONE →
    l.publisher.api = true ∧ l.publisher.provider ≠ none
  flagged : l.publisher.published ≠ ∅ → l.publisher.dupeField ≠ ESB_FIELD_NONE
  attached : ∀ call, .called call ∈ h.outputs → call.api = true
  writes : ∀ call, .called call ∈ h.outputs → ∀ provider field,
    writesThrough call.function = some (provider, field) → provider ≠ none ∧ field ≠ ESB_FIELD_NONE
  once : h.outputs.countP Output.unregisters ≤ 1
  owned : ∀ call, .called call ∈ h.outputs → ∀ provider, call.function = .unregisterProvider provider →
    ∃ handle ∈ h.handles, provider = some handle
  /-- Displayed by the tenth tick that fails to attach, and by no other. -/
  missing : h.outputs.count (.displayed ESB_MISSING_MESSAGE) = if 10 ≤ h.misses then 1 else 0
  conflict : h.outputs.count (.displayed conflictMessage) ≤ 1
  /-- Nothing after the conflict is an attempt to register. -/
  dropped : h.outputs.Pairwise (fun o later => o = .displayed conflictMessage → later.registers = false)

/-! ### Uses other than `OnTimer` -/

/-- They touch at most the record of what was published. -/
theorem effect_other {l : Life} {u : Use} (other : ∀ r, u ≠ .onTimer r) :
    ∃ published, (lifetime.effect l u).publisher = { l.publisher with published } := by
  cases u with
  | onTimer r => exact absurd rfl (other r)
  | publishDupe callsign dupe answer => exact publishDupe_registration l.publisher callsign dupe answer
  | forgetAbsent present => exact forgetAbsent_registration l.publisher present
  | destroy status => exact ⟨_, rfl⟩

theorem next_other (h : History) (l : Life) {u : Use} (other : ∀ r, u ≠ .onTimer r) :
    (h.next l u).handles = h.handles ∧ (h.next l u).misses = h.misses := by
  cases u with
  | onTimer r => exact absurd rfl (other r)
  | _ => simp [History.next]

/-! ### The handles -/

structure InOrder (l : Life) (h : History) : Prop where
  registered : l.publisher.Registered
  reachable : l.publisher.provider ≠ none → l.publisher.api = true
  handle : ∀ handle, l.publisher.provider = some handle → handle ∈ h.handles

theorem onTimer_provider (p : BridgePublisher) (r : Registration) :
    (p.onTimer r).publisher.provider = p.provider ∨
      (p.onTimer r).publisher.provider = some r.handle ∧
        ⟨true, .registerProvider, ESB_OK⟩ ∈ (p.onTimer r).calls := by
  rcases onTimer_cases p r with
    ⟨-, t⟩ | ⟨-, -, t⟩ | ⟨-, -, -, -, -, t⟩ | ⟨-, -, -, -, t⟩ | ⟨-, -, -, ok, t⟩
  · exact Or.inl (by rw [t])
  · exact Or.inl (by rw [t])
  · exact Or.inl (by rw [t])
  · exact Or.inl (by rw [t])
  · refine Or.inr ⟨by rw [t], ?_⟩
    rw [t, ok]
    exact List.mem_cons_self

theorem inOrder_onTimer {l : Life} {h : History} (r : Registration) (before : InOrder l h) :
    InOrder (lifetime.effect l (.onTimer r)) (h.next l (.onTimer r)) := by
  obtain ⟨registered, reachable, handle⟩ := before
  refine ⟨registered.onTimer r, ?_, ?_⟩
  · show (l.publisher.onTimer r).publisher.provider ≠ none → (l.publisher.onTimer r).publisher.api = true
    rcases onTimer_cases l.publisher r with ⟨-, t⟩ | ⟨-, -, t⟩ | ⟨-, -, -, -, -, t⟩ | ⟨-, -, -, -, t⟩ | ⟨-, -, -, -, t⟩
    · rw [t]
      exact reachable
    all_goals
      rw [t]
      exact fun _ => rfl
  · intro given holds
    rcases onTimer_provider l.publisher r with same | ⟨new, granted⟩
    · exact List.mem_append_left _ (handle given (same.symm.trans holds))
    · obtain rfl : r.handle = given := Option.some.inj (new.symm.trans holds)
      simp [History.next, granted]

theorem registered_effect {l : Life} (registered : l.publisher.Registered) (u : Use) :
    (lifetime.effect l u).publisher.Registered := by
  cases u with
  | onTimer r => exact registered.onTimer r
  | publishDupe callsign dupe answer => exact registered.publishDupe callsign dupe answer
  | forgetAbsent present => exact registered.forgetAbsent present
  | destroy status => exact registered

theorem inOrder_step {l : Life} {h : History} (u : Use) (before : InOrder l h) :
    InOrder (lifetime.effect l u) (h.next l u) := by
  by_cases timer : ∃ r, u = .onTimer r
  · obtain ⟨r, rfl⟩ := timer
    exact inOrder_onTimer r before
  · have other : ∀ r, u ≠ .onTimer r := fun r same => timer ⟨r, same⟩
    obtain ⟨published, same⟩ := effect_other (l := l) other
    obtain ⟨handles, -⟩ := next_other h l other
    refine ⟨registered_effect before.registered u, ?_, ?_⟩
    · rw [same]
      exact before.reachable
    · rw [same, handles]
      exact before.handle

theorem inOrder : lived.Invariant (fun x => InOrder x.1 x.2) := by
  refine Machine.invariant_of_step ⟨⟨fun _ => rfl, fun _ => rfl⟩, ?_, ?_⟩
    (fun x u _ before => inOrder_step u before)
  all_goals simp [lived, Machine.observe, lifetime]

/-! ### The calls -/

/-- A call goes through an attached api, writes through a registered provider, and unregisters only
a provider that was handed out. -/
structure Sound (h : History) (call : BridgeCall) : Prop where
  attached : call.api = true
  writes : ∀ provider field, writesThrough call.function = some (provider, field) →
    provider ≠ none ∧ field ≠ ESB_FIELD_NONE
  owned : ∀ provider, call.function = .unregisterProvider provider →
    ∃ handle ∈ h.handles, provider = some handle

theorem onTimer_calls {p : BridgePublisher} {r : Registration} {call : BridgeCall}
    (made : call ∈ (p.onTimer r).calls) :
    call.api = true ∧ (call.function = .registerProvider ∨ call.function = .ownField (some r.handle)) := by
  rcases onTimer_cases p r with ⟨-, t⟩ | ⟨-, -, t⟩ | ⟨-, -, -, -, -, t⟩ | ⟨-, -, -, -, t⟩ | ⟨-, -, -, -, t⟩
  · simp [t] at made
  · simp [t] at made
  · obtain rfl : call = _ := by simpa [t] using made
    exact ⟨rfl, Or.inl rfl⟩
  · obtain rfl : call = _ := by simpa [t] using made
    exact ⟨rfl, Or.inl rfl⟩
  · rw [t] at made
    rcases List.mem_cons.mp made with rfl | own
    · exact ⟨rfl, Or.inl rfl⟩
    · obtain rfl := List.mem_singleton.mp own
      exact ⟨rfl, Or.inr rfl⟩

theorem destroy_calls {p : BridgePublisher} {status : EsbStatus} {call : BridgeCall}
    (made : call ∈ p.destroy status) :
    call.api = true ∧ ∃ handle, p.provider = some handle ∧ call.function = .unregisterProvider p.provider := by
  unfold BridgePublisher.destroy at made
  split at made
  · rename_i both
    obtain ⟨api, registered⟩ := Bool.and_eq_true_iff.mp both
    obtain ⟨handle, provider⟩ := Option.isSome_iff_exists.mp registered
    obtain rfl := List.mem_singleton.mp made
    exact ⟨api, handle, provider, rfl⟩
  · contradiction

theorem sound_call {l : Life} {h : History} (before : InOrder l h) (u : Use) {call : BridgeCall}
    (made : .called call ∈ outputs l.publisher u) : Sound h call := by
  obtain ⟨registered, reachable, handle⟩ := before
  cases u with
  | forgetAbsent present => contradiction
  | onTimer r =>
    have inside : call ∈ (l.publisher.onTimer r).calls := by simpa [outputs] using made
    obtain ⟨api, register | own⟩ := onTimer_calls inside
    · exact ⟨api, by simp [register, writesThrough], by simp [register]⟩
    · exact ⟨api, by simp [own, writesThrough], by simp [own]⟩
  | publishDupe callsign dupe answer =>
    obtain ⟨field, api, function⟩ :=
      publishDupe_calls l.publisher callsign dupe answer call (by simpa [outputs] using made)
    have provider : l.publisher.provider ≠ none := fun none => field (registered.provider none)
    rw [reachable provider] at api
    rcases function with lookup | write
    · exact ⟨api, by simp [lookup, writesThrough], by simp [lookup]⟩
    · refine ⟨api, fun p f through => ?_, fun p function => ?_⟩
      · have both : l.publisher.provider = p ∧ l.publisher.dupeField = f := by
          cases dupe <;> simpa [write, writeDupe, writesThrough] using through
        exact ⟨both.1 ▸ provider, both.2 ▸ field⟩
      · rw [write] at function
        cases dupe <;> contradiction
  | destroy status =>
    have inside : call ∈ l.publisher.destroy status := by simpa [outputs] using made
    obtain ⟨api, own, provider, function⟩ := destroy_calls inside
    refine ⟨api, by simp [function, writesThrough], fun p same => ?_⟩
    obtain rfl : l.publisher.provider = p := by simpa [function] using same
    exact ⟨own, handle own provider, provider⟩

theorem Sound.next {h : History} {call : BridgeCall} (sound : Sound h call) (l : Life) (u : Use) :
    Sound (h.next l u) call := by
  refine ⟨sound.attached, sound.writes, fun provider function => ?_⟩
  obtain ⟨handle, given, same⟩ := sound.owned provider function
  exact ⟨handle, List.mem_append_left _ given, same⟩

theorem calls_sound : lived.Invariant (fun x => ∀ call, .called call ∈ x.2.outputs → Sound x.2 call) := by
  refine inOrder.strengthen (by simp [lived, Machine.observe]) ?_
  rintro ⟨l, h⟩ u - known before call member
  have this : Sound h call := by
    rcases List.mem_append.mp member with earlier | made
    · exact before call earlier
    · exact sound_call known u made
  exact this.next l u

/-! ### The provider is unregistered once -/

theorem outputs_unregisters {p : BridgePublisher} {u : Use} (alive : ∀ status, u ≠ .destroy status) :
    (outputs p u).countP Output.unregisters = 0 := by
  rw [List.countP_eq_zero]
  intro o made
  cases u with
  | forgetAbsent present => contradiction
  | destroy status => exact absurd rfl (alive status)
  | onTimer r =>
    rcases List.mem_append.mp made with called | displayed
    · obtain ⟨⟨api, function, status⟩, inside, rfl⟩ := List.mem_map.mp called
      obtain ⟨-, rfl | rfl⟩ := onTimer_calls inside <;> simp [Output.unregisters]
    · obtain ⟨text, -, rfl⟩ := List.mem_map.mp displayed
      simp [Output.unregisters]
  | publishDupe callsign dupe answer =>
    obtain ⟨⟨api, function, status⟩, inside, rfl⟩ := List.mem_map.mp made
    obtain ⟨-, -, rfl | rfl⟩ := publishDupe_calls p callsign dupe answer _ inside
    · simp [Output.unregisters]
    · cases dupe <;> simp [Output.unregisters, writeDupe]

theorem destroy_length (p : BridgePublisher) (status : EsbStatus) : (outputs p (.destroy status)).length ≤ 1 := by
  simp only [outputs, List.length_map, BridgePublisher.destroy]
  split <;> simp

theorem unregistered_once : lived.Invariant (fun x =>
    (x.1.alive = true → x.2.outputs.countP Output.unregisters = 0) ∧
      x.2.outputs.countP Output.unregisters ≤ 1) := by
  refine Machine.invariant_of_step (by simp [lived, Machine.observe]) ?_
  rintro ⟨l, h⟩ u on ⟨live, -⟩
  have none_yet := live on
  have all : (h.next l u).outputs.countP Output.unregisters =
      (outputs l.publisher u).countP Output.unregisters := by
    simp [History.next, List.countP_append, none_yet]
  show ((lifetime.effect l u).alive = true → (h.next l u).outputs.countP _ = 0) ∧
    (h.next l u).outputs.countP _ ≤ 1
  rw [all]
  by_cases last : ∃ status, u = .destroy status
  · obtain ⟨status, rfl⟩ := last
    refine ⟨fun alive => absurd alive (by simp [lifetime]), ?_⟩
    exact (List.countP_le_length).trans (destroy_length l.publisher status)
  · rw [outputs_unregisters (fun status same => last ⟨status, same⟩)]
    exact ⟨fun _ => rfl, Nat.zero_le 1⟩

/-! ### The two notices -/

theorem notices_differ : conflictMessage ≠ ESB_MISSING_MESSAGE := by decide

theorem count_displayed (p : BridgePublisher) (r : Registration) (text : Text) :
    (outputs p (.onTimer r)).count (.displayed text) = (p.onTimer r).displayed.count text := by
  have injective : Function.Injective Output.displayed := fun _ _ same => Output.displayed.inj same
  have uncalled : Output.displayed text ∉ (p.onTimer r).calls.map Output.called := by simp
  show ((p.onTimer r).calls.map Output.called ++ (p.onTimer r).displayed.map Output.displayed).count _ = _
  rw [List.count_append, List.count_eq_zero.mpr uncalled, Nat.zero_add,
    List.count_map_of_injective _ _ injective]

/-- The notice of a missing bridge follows the count of the ticks that failed to attach. -/
structure Noticed (p : BridgePublisher) (misses shown : Nat) : Prop where
  waiting : p.missingReported = false → p.missingTicks = misses ∧ misses < 10 ∧ shown = 0
  reported : p.missingReported = true → 10 ≤ misses ∧ shown = 1

theorem noticed_onTimer {p : BridgePublisher} {misses shown : Nat} (r : Registration)
    (before : Noticed p misses shown) :
    Noticed (p.onTimer r).publisher (misses + if p.misses r then 1 else 0)
      (shown + (p.onTimer r).displayed.count ESB_MISSING_MESSAGE) := by
  obtain ⟨waiting, reported⟩ := before
  rcases onTimer_cases p r with
    ⟨miss, t⟩ | ⟨hit, -, t⟩ | ⟨hit, -, -, -, -, t⟩ | ⟨hit, -, -, -, t⟩ | ⟨hit, -, -, -, t⟩
  · rw [t, miss]
    cases flag : p.missingReported with
    | true =>
      have quiet : p.noticed = false := by simp [noticed, flag]
      obtain ⟨many, once⟩ := reported flag
      refine ⟨by simp, fun _ => ⟨?_, ?_⟩⟩
      · simp
        omega
      · simp [quiet, once]
    | false =>
      obtain ⟨ticks, few, none_yet⟩ := waiting flag
      have next : p.missed = misses + 1 := by simp [missed, flag, ticks]
      have notice : p.noticed = decide (10 ≤ misses + 1) := by
        simp [noticed, flag, next, MISSING_TICKS_BEFORE_NOTICE]
      by_cases tenth : 10 ≤ misses + 1
      · refine ⟨by simp [notice, tenth], fun _ => ⟨tenth, ?_⟩⟩
        simp [notice, tenth, none_yet]
      · refine ⟨fun _ => ⟨next, Nat.lt_of_not_le tenth, ?_⟩, by simp [notice, tenth]⟩
        simp [notice, tenth, none_yet]
  · rw [t, hit]
    exact ⟨waiting, reported⟩
  · rw [t, hit]
    exact ⟨waiting, reported⟩
  · rw [t, hit]
    exact ⟨by simpa [notices_differ] using waiting, by simpa [notices_differ] using reported⟩
  · rw [t, hit]
    exact ⟨waiting, reported⟩

/-- The conflict is displayed once, and ends the attempts to register. -/
structure Conflicted (p : BridgePublisher) (all : List Output) : Prop where
  conflict : all.count (.displayed conflictMessage) = if p.providerConflict then 1 else 0
  dropped : all.Pairwise (fun o later => o = .displayed conflictMessage → later.registers = false)

theorem Conflicted.append {p p' : BridgePublisher} {all new : List Output} (before : Conflicted p all)
    (flag : p'.providerConflict = p.providerConflict) (quiet : .displayed conflictMessage ∉ new)
    (ended : p.providerConflict = true → ∀ o ∈ new, o.registers = false) : Conflicted p' (all ++ new) := by
  obtain ⟨conflict, dropped⟩ := before
  constructor
  · rw [List.count_append, conflict, List.count_eq_zero.mpr quiet, flag, Nat.add_zero]
  · rw [List.pairwise_append]
    refine ⟨dropped, ?_, fun o member later made same => ?_⟩
    · apply List.pairwise_of_forall_mem_list
      intro o made later _ same
      exact absurd (same ▸ made) quiet
    · have shown : 0 < all.count (.displayed conflictMessage) := List.count_pos_iff.mpr (same ▸ member)
      rw [conflict] at shown
      exact ended (by_contra fun off => by simp [off] at shown) later made

theorem conflicted_onTimer {p : BridgePublisher} {all : List Output} (r : Registration)
    (before : Conflicted p all) :
    Conflicted (p.onTimer r).publisher (all ++ outputs p (.onTimer r)) := by
  have new : outputs p (.onTimer r) =
    (p.onTimer r).calls.map .called ++ (p.onTimer r).displayed.map .displayed := rfl
  rw [new]
  rcases onTimer_cases p r with
    ⟨-, t⟩ | ⟨-, -, t⟩ | ⟨-, -, free, -, -, t⟩ | ⟨-, -, free, -, t⟩ | ⟨-, -, free, -, t⟩
  · rw [t]
    refine before.append ?_ ?_ ?_
    · rfl
    · cases p.noticed <;> simp [notices_differ]
    · cases p.noticed <;> simp [Output.registers]
  · rw [t]
    exact before.append rfl (by simp) (by simp)
  · rw [t]
    exact before.append rfl (by simp) (fun conflict => absurd conflict (by simp [free]))
  · obtain ⟨conflict, dropped⟩ := before
    rw [free] at conflict
    have unseen : Output.displayed conflictMessage ∉ all := List.count_eq_zero.mp conflict
    rw [t]
    constructor
    · simp [List.count_append, conflict]
    · rw [List.pairwise_append]
      refine ⟨dropped, by simp, fun o member later made same => ?_⟩
      exact absurd (same ▸ member) unseen
  · rw [t]
    exact before.append rfl (by simp) (fun conflict => absurd conflict (by simp [free]))

theorem outputs_other {p : BridgePublisher} {u : Use} (other : ∀ r, u ≠ .onTimer r) :
    (∀ text, .displayed text ∉ outputs p u) ∧ ∀ o ∈ outputs p u, o.registers = false := by
  cases u with
  | onTimer r => exact absurd rfl (other r)
  | forgetAbsent present => simp [outputs]
  | publishDupe callsign dupe answer =>
    refine ⟨by simp [outputs], fun o made => ?_⟩
    obtain ⟨⟨api, function, status⟩, inside, rfl⟩ := List.mem_map.mp made
    obtain ⟨-, -, rfl | rfl⟩ := publishDupe_calls p callsign dupe answer _ inside
    · rfl
    · cases dupe <;> rfl
  | destroy status =>
    refine ⟨by simp [outputs], fun o made => ?_⟩
    obtain ⟨⟨api, function, answer⟩, inside, rfl⟩ := List.mem_map.mp made
    obtain ⟨-, -, -, rfl⟩ := destroy_calls inside
    rfl

theorem notices : lived.Invariant (fun x =>
    Noticed x.1.publisher x.2.misses (x.2.outputs.count (.displayed ESB_MISSING_MESSAGE)) ∧
      Conflicted x.1.publisher x.2.outputs) := by
  refine Machine.invariant_of_step ⟨⟨fun _ => ⟨rfl, by decide, rfl⟩, fun on => ?_⟩, rfl, .nil⟩ ?_
  · contradiction
  rintro ⟨l, h⟩ u - ⟨noticed, conflicted⟩
  show Noticed (lifetime.effect l u).publisher (h.next l u).misses ((h.outputs ++ outputs l.publisher u).count _) ∧
    Conflicted (lifetime.effect l u).publisher (h.outputs ++ outputs l.publisher u)
  by_cases timer : ∃ r, u = .onTimer r
  · obtain ⟨r, rfl⟩ := timer
    refine ⟨?_, conflicted_onTimer r conflicted⟩
    rw [List.count_append, count_displayed]
    exact noticed_onTimer r noticed
  · have other : ∀ r, u ≠ .onTimer r := fun r same => timer ⟨r, same⟩
    obtain ⟨published, same⟩ := effect_other (l := l) other
    obtain ⟨quiet, idle⟩ := outputs_other (p := l.publisher) other
    obtain ⟨-, misses⟩ := next_other h l other
    rw [same]
    refine ⟨?_, conflicted.append rfl (quiet conflictMessage) (fun _ => idle)⟩
    rw [List.count_append, List.count_eq_zero.mpr (quiet ESB_MISSING_MESSAGE), Nat.add_zero, misses]
    exact ⟨noticed.waiting, noticed.reported⟩

/-- The publisher's handles are safe in every life, and each of its two notices is given once. -/
theorem publisher_safe (uses : List Use) : Safe (lived.run uses).1 (lived.run uses).2 := by
  obtain ⟨registered, reachable, -⟩ := inOrder uses
  have sound := calls_sound uses
  obtain ⟨⟨waiting, reported⟩, conflict, dropped⟩ := notices uses
  exact {
    resolved := fun field =>
      have provider := fun none => field (registered.provider none)
      ⟨reachable provider, provider⟩
    flagged := fun flags none => flags (registered.field none)
    attached := fun call member => (sound call member).attached
    writes := fun call member => (sound call member).writes
    once := (unregistered_once uses).2
    owned := fun call member => (sound call member).owned
    missing := by
      cases flag : (lived.run uses).1.publisher.missingReported with
      | true =>
        obtain ⟨many, once⟩ := reported flag
        rw [once, if_pos many]
      | false =>
        obtain ⟨-, few, none_yet⟩ := waiting flag
        rw [none_yet, if_neg (by omega)]
    conflict := by
      rw [conflict]
      split <;> omega
    dropped }

end CentralSquawk.Dupe
