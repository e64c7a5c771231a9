import CentralSquawk.BridgePublisher

/-!
# Registering, tick after tick

`OnTimer` goes on trying as long as it has no provider. A provider whose field
could not be owned is kept, so the field is not asked for again.
-/

namespace CentralSquawk.Dupe
open BridgePublisher

def timers (ticks : List Registration) : Ticked :=
  ticks.foldl (fun t r =>
    let next := t.publisher.onTimer r
    { publisher := next.publisher
      calls := t.calls ++ next.calls
      displayed := t.displayed ++ next.displayed }) { publisher := {} }

def Untaken (calls : List BridgeCall) : Prop :=
  ∀ call ∈ calls, call.function = .registerProvider → call.status ≠ ESB_E_PROVIDER_TAKEN

def Owned (calls : List BridgeCall) : Prop :=
  ∀ call ∈ calls, ∀ provider, call.function = .ownField provider → call.status = ESB_OK

/-- A tick on which everything that is called succeeds, after others on which anything may fail. -/
structure Recovers (ticks : List Registration) (last : Registration) : Prop where
  valid : ∀ r ∈ ticks ++ [last], r.own = ESB_OK → r.field ≠ ESB_FIELD_NONE
  untaken : Untaken (timers (ticks ++ [last])).calls
  attached : (timers ticks).publisher.api = true ∨ last.attach = true
  succeeds : ∀ call ∈ ((timers ticks).publisher.onTimer last).calls, call.status = ESB_OK

theorem timers_snoc (ticks : List Registration) (r : Registration) :
    (timers (ticks ++ [r])).publisher = ((timers ticks).publisher.onTimer r).publisher ∧
      (timers (ticks ++ [r])).calls = (timers ticks).calls ++ ((timers ticks).publisher.onTimer r).calls := by
  unfold timers
  rw [List.foldl_append]
  exact ⟨rfl, rfl⟩

/-- Without a provider nothing was owned; with one, what `own_field` said is what the field tells. -/
structure Registering (p : BridgePublisher) (calls : List BridgeCall) : Prop where
  free : p.providerConflict = false
  unasked : p.provider = none → ∀ call ∈ calls, ∀ provider, call.function ≠ .ownField provider
  asked : p.provider ≠ none → (p.dupeField ≠ ESB_FIELD_NONE ↔ Owned calls)

theorem Registering.unasked_owned {p : BridgePublisher} {calls : List BridgeCall}
    (before : Registering p calls) (unregistered : p.provider = none) : Owned calls := by
  intro call member provider own
  exact absurd own (before.unasked unregistered call member provider)

theorem owned_append {calls new : List BridgeCall} : Owned (calls ++ new) ↔ Owned calls ∧ Owned new :=
  List.forall_mem_append

theorem registering_onTimer {p : BridgePublisher} {calls : List BridgeCall} {r : Registration}
    (valid : r.own = ESB_OK → r.field ≠ ESB_FIELD_NONE) (untaken : Untaken (p.onTimer r).calls)
    (before : Registering p calls) :
    Registering (p.onTimer r).publisher (calls ++ (p.onTimer r).calls) := by
  have none_before := before.unasked_owned
  obtain ⟨free, unasked, asked⟩ := before
  rcases onTimer_cases p r with
    ⟨-, t⟩ | ⟨-, -, t⟩ | ⟨-, unregistered, -, -, -, t⟩ | ⟨-, -, -, taken, t⟩ | ⟨-, unregistered, -, -, t⟩
  · rw [t, List.append_nil]
    exact ⟨free, unasked, asked⟩
  · rw [t, List.append_nil]
    exact ⟨free, unasked, asked⟩
  · rw [t]
    refine ⟨free, fun _ call member provider => ?_, fun registered => absurd unregistered registered⟩
    rcases List.mem_append.mp member with earlier | this
    · exact unasked unregistered call earlier provider
    · obtain rfl := List.mem_singleton.mp this
      simp
  · rw [t] at untaken
    exact absurd taken (untaken _ List.mem_cons_self rfl)
  · rw [t]
    refine ⟨free, fun none => by contradiction, fun _ => ?_⟩
    have now : Owned [⟨true, .registerProvider, r.register⟩, ⟨true, .ownField (some r.handle), r.own⟩] ↔
        r.own = ESB_OK := by
      simp [Owned]
    rw [owned_append, now, and_iff_right (none_before unregistered)]
    by_cases ok : r.own = ESB_OK
    · simp [ok, valid ok]
    · simp [ok]

theorem registering_timers {ticks : List Registration}
    (valid : ∀ r ∈ ticks, r.own = ESB_OK → r.field ≠ ESB_FIELD_NONE) (untaken : Untaken (timers ticks).calls) :
    Registering (timers ticks).publisher (timers ticks).calls := by
  induction ticks using List.reverseRecOn with
  | nil => exact ⟨rfl, by simp [timers], fun registered => absurd rfl registered⟩
  | append_singleton ticks r ih =>
    obtain ⟨publisher, calls⟩ := timers_snoc ticks r
    rw [calls] at untaken
    obtain ⟨earlier, this⟩ := List.forall_mem_append.mp untaken
    obtain ⟨valid, here⟩ := List.forall_mem_append.mp valid
    rw [publisher, calls]
    exact registering_onTimer (here r (List.mem_singleton_self r)) this (ih valid earlier)

/-- The retries end with a field exactly when `own_field` has not failed before. -/
theorem registration_completed_iff {ticks : List Registration} {last : Registration}
    (recovers : Recovers ticks last) :
    (timers (ticks ++ [last])).publisher.dupeField ≠ ESB_FIELD_NONE ↔ Owned (timers ticks).calls := by
  obtain ⟨valid, untaken, attached, succeeds⟩ := recovers
  obtain ⟨publisher, calls⟩ := timers_snoc ticks last
  rw [calls] at untaken
  obtain ⟨earlier, -⟩ := List.forall_mem_append.mp untaken
  obtain ⟨valid, here⟩ := List.forall_mem_append.mp valid
  have before := registering_timers valid earlier
  rw [publisher]
  rcases onTimer_cases (timers ticks).publisher last with
    ⟨miss, -⟩ | ⟨-, settled, t⟩ | ⟨-, -, -, refused, -, t⟩ | ⟨-, -, -, taken, t⟩ |
      ⟨-, unregistered, -, -, t⟩
  · have gone : (timers ticks).publisher.api = false ∧ last.attach = false := by simpa [misses] using miss
    rcases attached with api | attach
    · exact absurd api (by simp [gone])
    · exact absurd attach (by simp [gone])
  · have registered := settled.resolve_right (by simp [before.free])
    rw [t]
    exact before.asked registered
  · rw [t] at succeeds
    exact absurd (succeeds _ List.mem_cons_self) refused
  · rw [t] at succeeds
    have ok : last.register = ESB_OK := succeeds _ List.mem_cons_self
    rw [taken] at ok
    contradiction
  · have own : last.own = ESB_OK := by
      rw [t] at succeeds
      exact succeeds ⟨true, .ownField (some last.handle), last.own⟩ (by simp)
    have field := here last (List.mem_singleton_self last) own
    rw [t]
    simp [own, field, before.unasked_owned unregistered]

/-! ### One failure of `own_field` -/

def ready : Registration := { attach := true, handle := 1, field := 7 }

def failures : List Registration := [{ ready with attach := false }, { ready with register := -13 }]

theorem registration_completed_after_failures :
    (timers (failures ++ [ready])).publisher.dupeField ≠ ESB_FIELD_NONE ↔ Owned (timers failures).calls := by
  apply registration_completed_iff
  refine ⟨?_, ?_, ?_, ?_⟩
  · decide
  · unfold Untaken
    decide
  · decide
  · decide

/-- The bridge refuses the field once and grants everything from then on. -/
theorem registration_never_completed : ¬ ∀ ticks last, Recovers ticks last →
    (timers (ticks ++ [last])).publisher.dupeField ≠ ESB_FIELD_NONE := by
  intro all
  have recovers : Recovers [{ ready with own := -1 }] ready := by
    refine ⟨?_, ?_, ?_, ?_⟩
    · decide
    · unfold Untaken
      decide
    · decide
    · decide
  exact all _ _ recovers (by decide)

end CentralSquawk.Dupe
