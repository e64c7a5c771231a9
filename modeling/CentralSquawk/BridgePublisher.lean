import CentralSquawk.Helpers
import Mathlib.Data.Finset.Basic

/-!
# The DUPE publisher

`src/core/BridgePublisher.cpp`, and the part of the EuroScope Plugin Bridge it
talks to (`External/esbridge/esbridge.h`). What the bridge answers is an input
of every operation; the calls made are part of its result.
-/

namespace CentralSquawk

/-! ### The bridge's C interface -/

abbrev EsbStatus := Int

def ESB_OK : EsbStatus := 0
def ESB_E_PROVIDER_TAKEN : EsbStatus := -5

abbrev EsbFieldId := UInt32

def ESB_FIELD_NONE : EsbFieldId := 0

/-- `ESB_Provider*`; `none` is the null pointer. -/
abbrev EsbProvider := Option Nat

def ESB_MISSING_MESSAGE : Text :=
  text "EuroScope Plugin Bridge is not loaded. Download EuroScopeBridge.dll and " ++
  text "add it under Other Settings > Plug-ins > Load: " ++
  text "https://github.com/AlexisBalzano/Euroscope-Plugin-Bridge/releases"

/-- A function called through `api_`; an aircraft handle is the callsign it was looked up for. -/
inductive BridgeFunction where
  | registerProvider
  | unregisterProvider (provider : EsbProvider)
  | ownField (provider : EsbProvider)
  | aircraft (callsign : Text)
  | setAc (provider : EsbProvider) (aircraft : Text) (field : EsbFieldId)
  | clearAc (provider : EsbProvider) (aircraft : Text) (field : EsbFieldId)
  deriving DecidableEq

structure BridgeCall where
  api : Bool
  function : BridgeFunction
  status : EsbStatus
  deriving DecidableEq

/-! ### The publisher -/

structure BridgePublisher where
  api : Bool := false
  provider : EsbProvider := none
  dupeField : EsbFieldId := ESB_FIELD_NONE
  providerConflict : Bool := false
  missingTicks : Nat := 0
  missingReported : Bool := false
  published : Finset Text := ∅
  deriving DecidableEq

namespace BridgePublisher

def PROVIDER_ID : Text := text "centralsquawk"

def MISSING_TICKS_BEFORE_NOTICE : Nat := 10

/-- What the bridge answers during one `OnTimer`: `handle` and `field` are what the calls leave in
their out parameters, the handle of a registered provider being non-null. -/
structure Registration where
  attach : Bool := false
  register : EsbStatus := ESB_OK
  handle : Nat := 0
  own : EsbStatus := ESB_OK
  field : EsbFieldId := ESB_FIELD_NONE
  deriving DecidableEq

structure Ticked where
  publisher : BridgePublisher
  calls : List BridgeCall := []
  displayed : List Text := []

def conflictMessage : Text :=
  text "Another loaded plugin already owns the \"" ++ PROVIDER_ID ++ text "\" bridge provider id."

def registerProvider (p : BridgePublisher) (r : Registration) : Ticked :=
  let registered : BridgeCall := ⟨p.api, .registerProvider, r.register⟩
  if r.register ≠ ESB_OK then
    let taken : Bool := r.register = ESB_E_PROVIDER_TAKEN
    { publisher := { p with provider := none, providerConflict := p.providerConflict || taken }
      calls := [registered]
      displayed := if taken then [conflictMessage] else [] }
  else
    { publisher := { p with
        provider := some r.handle
        dupeField := if r.own ≠ ESB_OK then ESB_FIELD_NONE else r.field }
      calls := [registered, ⟨p.api, .ownField (some r.handle), r.own⟩] }

def misses (p : BridgePublisher) (r : Registration) : Bool := !p.api && !r.attach

def missed (p : BridgePublisher) : Nat :=
  if p.missingReported then p.missingTicks else p.missingTicks + 1

def noticed (p : BridgePublisher) : Bool :=
  !p.missingReported && MISSING_TICKS_BEFORE_NOTICE ≤ p.missed

def onTimer (p : BridgePublisher) (r : Registration) : Ticked :=
  if p.misses r then
    { publisher := { p with
        missingTicks := p.missed
        missingReported := p.missingReported || p.noticed }
      displayed := if p.noticed then [ESB_MISSING_MESSAGE] else [] }
  else
    let attached := { p with api := true }
    if attached.provider = none ∧ attached.providerConflict = false then registerProvider attached r
    else { publisher := attached }

/-- `~BridgePublisher`. -/
def destroy (p : BridgePublisher) (status : EsbStatus) : List BridgeCall :=
  if p.api && p.provider.isSome then [⟨p.api, .unregisterProvider p.provider, status⟩] else []

def writeDupe (p : BridgePublisher) (callsign : Text) (dupe : Bool) : BridgeFunction :=
  if dupe then .setAc p.provider callsign p.dupeField else .clearAc p.provider callsign p.dupeField

/-- What the bridge answers to the lookup and to the write of one `PublishDupe`. -/
structure Answer where
  aircraft : EsbStatus := ESB_OK
  write : EsbStatus := ESB_OK
  deriving DecidableEq

structure Published where
  publisher : BridgePublisher
  calls : List BridgeCall := []

def publishDupe (p : BridgePublisher) (callsign : Text) (dupe : Bool) (answer : Answer) : Published :=
  if p.dupeField = ESB_FIELD_NONE ∨ callsign = [] then { publisher := p }
  else if dupe = decide (callsign ∈ p.published) then { publisher := p }
  else
    let lookup : BridgeCall := ⟨p.api, .aircraft callsign, answer.aircraft⟩
    if answer.aircraft ≠ ESB_OK then
      { publisher := if dupe then p else { p with published := p.published.erase callsign }
        calls := [lookup] }
    else
      { publisher := if answer.write ≠ ESB_OK then p
          else if dupe then { p with published := insert callsign p.published }
          else { p with published := p.published.erase callsign }
        calls := [lookup, ⟨p.api, p.writeDupe callsign dupe, answer.write⟩] }

def forgetAbsent (p : BridgePublisher) (present : Finset Text) : BridgePublisher :=
  if p.published.card ≤ present.card then p
  else { p with published := p.published.filter (fun cs => cs ∈ present) }

def hasPublished (p : BridgePublisher) : Bool := p.published ≠ ∅

end BridgePublisher

/-! ### The bridge's side -/

/-- The DUPE values the bridge holds. A value belongs to an aircraft's connection, so a callsign
that is not on the network has none. -/
structure Bridge where
  network : Finset Text
  flagged : Finset Text
  connected : flagged ⊆ network

namespace Bridge

def empty : Bridge := ⟨∅, ∅, by simp⟩

def join (b : Bridge) (callsign : Text) : Bridge :=
  ⟨insert callsign b.network, b.flagged, b.connected.trans (Finset.subset_insert _ _)⟩

def leave (b : Bridge) (callsign : Text) : Bridge :=
  ⟨b.network.erase callsign, b.flagged.erase callsign, Finset.erase_subset_erase _ b.connected⟩

def setFlag (b : Bridge) (callsign : Text) : Bridge :=
  if h : callsign ∈ b.network then
    ⟨b.network, insert callsign b.flagged, Finset.insert_subset h b.connected⟩
  else b

def clearFlag (b : Bridge) (callsign : Text) : Bridge :=
  ⟨b.network, b.flagged.erase callsign, (Finset.erase_subset _ _).trans b.connected⟩

/-- A write answered with anything but `ESB_OK` changes nothing. -/
def perform (b : Bridge) (call : BridgeCall) : Bridge :=
  if call.status ≠ ESB_OK then b
  else
    match call.function with
    | .setAc _ callsign _ => b.setFlag callsign
    | .clearAc _ callsign _ => b.clearFlag callsign
    | _ => b

def performAll (b : Bridge) (calls : List BridgeCall) : Bridge := calls.foldl perform b

@[simp] theorem setFlag_network (b : Bridge) (callsign : Text) :
    (b.setFlag callsign).network = b.network := by
  unfold setFlag
  split <;> rfl

theorem mem_setFlag {b : Bridge} {callsign other : Text} :
    other ∈ (b.setFlag callsign).flagged ↔
      other ∈ b.flagged ∨ other = callsign ∧ callsign ∈ b.network := by
  unfold setFlag
  split
  · rename_i connected
    simp only [Finset.mem_insert, connected, and_true]
    exact or_comm
  · rename_i gone
    simp [gone]

end Bridge

/-! ### What a call leaves behind -/

namespace BridgePublisher

/-- `PublishDupe` leaves both sides alone, forgets a callsign the lookup does not find, or moves
both sides together. -/
theorem publishDupe_cases (p : BridgePublisher) (b : Bridge) (callsign : Text) (dupe : Bool)
    (answer : Answer) :
    ((p.publishDupe callsign dupe answer).publisher = p ∧
      b.performAll (p.publishDupe callsign dupe answer).calls = b ∧
      (p.dupeField = ESB_FIELD_NONE ∨ callsign = [] ∨ dupe = decide (callsign ∈ p.published) ∨
        (dupe = true ∧ answer.aircraft ≠ ESB_OK) ∨
        (answer.write ≠ ESB_OK ∧ ⟨p.api, p.writeDupe callsign dupe, answer.write⟩ ∈
          (p.publishDupe callsign dupe answer).calls))) ∨
    (dupe = false ∧ answer.aircraft ≠ ESB_OK ∧
      (p.publishDupe callsign dupe answer).publisher =
        { p with published := p.published.erase callsign } ∧
      b.performAll (p.publishDupe callsign dupe answer).calls = b) ∨
    (dupe = true ∧ p.dupeField ≠ ESB_FIELD_NONE ∧
      (p.publishDupe callsign dupe answer).publisher =
        { p with published := insert callsign p.published } ∧
      b.performAll (p.publishDupe callsign dupe answer).calls = b.setFlag callsign) ∨
    (dupe = false ∧
      (p.publishDupe callsign dupe answer).publisher =
        { p with published := p.published.erase callsign } ∧
      b.performAll (p.publishDupe callsign dupe answer).calls = b.clearFlag callsign) := by
  have found : ∀ status : EsbStatus, b.perform ⟨p.api, .aircraft callsign, status⟩ = b := by
    intro status
    unfold Bridge.perform
    split <;> rfl
  unfold publishDupe
  split
  · rename_i early
    exact Or.inl ⟨rfl, rfl, early.imp_right Or.inl⟩
  rename_i resolved
  have field : p.dupeField ≠ ESB_FIELD_NONE := fun none => resolved (Or.inl none)
  split
  · rename_i same
    exact Or.inl ⟨rfl, rfl, Or.inr (Or.inr (Or.inl same))⟩
  dsimp only
  split
  · rename_i unknown
    cases dupe with
    | true =>
      exact Or.inl ⟨rfl, found _, Or.inr (Or.inr (Or.inr (Or.inl ⟨rfl, unknown⟩)))⟩
    | false => exact Or.inr (Or.inl ⟨rfl, unknown, rfl, found _⟩)
  by_cases written : answer.write = ESB_OK
  · cases dupe with
    | true =>
      refine Or.inr (Or.inr (Or.inl ⟨rfl, field, by simp [written], ?_⟩))
      simp [Bridge.performAll, Bridge.perform, written, writeDupe]
    | false =>
      refine Or.inr (Or.inr (Or.inr ⟨rfl, by simp [written], ?_⟩))
      simp [Bridge.performAll, Bridge.perform, written, writeDupe]
  · refine Or.inl ⟨by simp [written], ?_, Or.inr (Or.inr (Or.inr (Or.inr ⟨written, by simp⟩)))⟩
    have refused : b.perform ⟨p.api, p.writeDupe callsign dupe, answer.write⟩ = b := if_pos written
    simp [Bridge.performAll, found, refused]

theorem forgetAbsent_published_subset (p : BridgePublisher) (present : Finset Text) :
    (p.forgetAbsent present).published ⊆ p.published := by
  unfold forgetAbsent
  split
  · exact Finset.Subset.refl _
  · exact Finset.filter_subset _ _

theorem mem_forgetAbsent {p : BridgePublisher} {present : Finset Text} {callsign : Text}
    (published : callsign ∈ p.published) (listed : callsign ∈ present) :
    callsign ∈ (p.forgetAbsent present).published := by
  unfold forgetAbsent
  split
  · exact published
  · exact Finset.mem_filter.mpr ⟨published, listed⟩

@[simp] theorem forgetAbsent_dupeField (p : BridgePublisher) (present : Finset Text) :
    (p.forgetAbsent present).dupeField = p.dupeField := by
  unfold forgetAbsent
  split <;> rfl

@[simp] theorem forgetAbsent_provider (p : BridgePublisher) (present : Finset Text) :
    (p.forgetAbsent present).provider = p.provider := by
  unfold forgetAbsent
  split <;> rfl

/-- `OnTimer` misses the bridge, has nothing left to do, or asks to be registered and is refused, is
told of a conflict, or is registered. -/
theorem onTimer_cases (p : BridgePublisher) (r : Registration) :
    (p.misses r = true ∧ p.onTimer r =
      { publisher := { p with
          missingTicks := p.missed
          missingReported := p.missingReported || p.noticed }
        displayed := if p.noticed then [ESB_MISSING_MESSAGE] else [] }) ∨
    (p.misses r = false ∧ (p.provider ≠ none ∨ p.providerConflict = true) ∧
      p.onTimer r = { publisher := { p with api := true } }) ∨
    (p.misses r = false ∧ p.provider = none ∧ p.providerConflict = false ∧ r.register ≠ ESB_OK ∧
      r.register ≠ ESB_E_PROVIDER_TAKEN ∧ p.onTimer r =
        { publisher := { p with api := true }
          calls := [⟨true, .registerProvider, r.register⟩] }) ∨
    (p.misses r = false ∧ p.provider = none ∧ p.providerConflict = false ∧
      r.register = ESB_E_PROVIDER_TAKEN ∧ p.onTimer r =
        { publisher := { p with api := true, providerConflict := true }
          calls := [⟨true, .registerProvider, r.register⟩]
          displayed := [conflictMessage] }) ∨
    (p.misses r = false ∧ p.provider = none ∧ p.providerConflict = false ∧ r.register = ESB_OK ∧
      p.onTimer r =
        { publisher := { p with
            api := true
            provider := some r.handle
            dupeField := if r.own ≠ ESB_OK then ESB_FIELD_NONE else r.field }
          calls := [⟨true, .registerProvider, r.register⟩, ⟨true, .ownField (some r.handle), r.own⟩] }) := by
  unfold onTimer
  split
  · rename_i miss
    exact Or.inl ⟨miss, rfl⟩
  rename_i attached
  have hit : p.misses r = false := by simpa using attached
  dsimp only
  split
  · rename_i unregistered
    obtain ⟨provider, conflict⟩ := unregistered
    refine Or.inr (Or.inr ?_)
    by_cases ok : r.register = ESB_OK
    · refine Or.inr (Or.inr ⟨hit, provider, conflict, ok, ?_⟩)
      simp [registerProvider, ok]
    by_cases taken : r.register = ESB_E_PROVIDER_TAKEN
    · refine Or.inr (Or.inl ⟨hit, provider, conflict, taken, ?_⟩)
      simp [registerProvider, taken, provider, conflictMessage, ESB_OK, ESB_E_PROVIDER_TAKEN]
    · refine Or.inl ⟨hit, provider, conflict, ok, taken, ?_⟩
      simp [registerProvider, ok, taken, provider]
  · rename_i settled
    refine Or.inr (Or.inl ⟨hit, ?_, rfl⟩)
    by_contra neither
    push Not at neither
    exact settled ⟨neither.1, by simpa using neither.2⟩

theorem publishDupe_registration (p : BridgePublisher) (callsign : Text) (dupe : Bool) (answer : Answer) :
    ∃ published, (p.publishDupe callsign dupe answer).publisher = { p with published } := by
  unfold publishDupe
  dsimp only
  repeat' split
  all_goals exact ⟨_, rfl⟩

theorem forgetAbsent_registration (p : BridgePublisher) (present : Finset Text) :
    ∃ published, p.forgetAbsent present = { p with published } := by
  unfold forgetAbsent
  split
  · exact ⟨_, rfl⟩
  · exact ⟨_, rfl⟩

/-- `PublishDupe` calls the bridge only through a resolved field, to look the flight up and to write. -/
theorem publishDupe_calls (p : BridgePublisher) (callsign : Text) (dupe : Bool) (answer : Answer) :
    ∀ call ∈ (p.publishDupe callsign dupe answer).calls, p.dupeField ≠ ESB_FIELD_NONE ∧
      call.api = p.api ∧
      (call.function = .aircraft callsign ∨ call.function = p.writeDupe callsign dupe) := by
  intro call made
  unfold publishDupe at made
  split at made
  · contradiction
  rename_i resolved
  have field : p.dupeField ≠ ESB_FIELD_NONE := fun none => resolved (Or.inl none)
  split at made
  · contradiction
  dsimp only at made
  split at made
  · obtain rfl := List.mem_singleton.mp made
    exact ⟨field, rfl, Or.inl rfl⟩
  · rcases List.mem_cons.mp made with rfl | written
    · exact ⟨field, rfl, Or.inl rfl⟩
    · obtain rfl := List.mem_singleton.mp written
      exact ⟨field, rfl, Or.inr rfl⟩

theorem performAll_onTimer (p : BridgePublisher) (b : Bridge) (r : Registration) :
    b.performAll (p.onTimer r).calls = b := by
  rcases onTimer_cases p r with ⟨-, t⟩ | ⟨-, -, t⟩ | ⟨-, -, -, -, -, t⟩ | ⟨-, -, -, -, t⟩ | ⟨-, -, -, -, t⟩
  all_goals
    rw [t]
    simp [Bridge.performAll, Bridge.perform]

/-- A field needs a provider, and a published flag needs the field. -/
structure Registered (p : BridgePublisher) : Prop where
  provider : p.provider = none → p.dupeField = ESB_FIELD_NONE
  field : p.dupeField = ESB_FIELD_NONE → p.published = ∅

theorem Registered.onTimer {p : BridgePublisher} (registered : p.Registered) (r : Registration) :
    (p.onTimer r).publisher.Registered := by
  obtain ⟨provider, field⟩ := registered
  rcases onTimer_cases p r with
    ⟨-, t⟩ | ⟨-, -, t⟩ | ⟨-, -, -, -, -, t⟩ | ⟨-, -, -, -, t⟩ | ⟨-, unregistered, -, -, t⟩
  · rw [t]
    exact ⟨provider, field⟩
  · rw [t]
    exact ⟨provider, field⟩
  · rw [t]
    exact ⟨provider, field⟩
  · rw [t]
    exact ⟨provider, field⟩
  · rw [t]
    exact ⟨by simp, fun _ => field (provider unregistered)⟩

theorem Registered.publishDupe {p : BridgePublisher} (registered : p.Registered) (callsign : Text)
    (dupe : Bool) (answer : Answer) : (p.publishDupe callsign dupe answer).publisher.Registered := by
  obtain ⟨provider, field⟩ := registered
  rcases publishDupe_cases p .empty callsign dupe answer with
    ⟨same, -⟩ | ⟨-, -, erased, -⟩ | ⟨-, resolved, inserted, -⟩ | ⟨-, erased, -⟩
  · rw [same]
    exact ⟨provider, field⟩
  · rw [erased]
    exact ⟨provider, fun none => by simp [field none]⟩
  · rw [inserted]
    exact ⟨provider, fun none => absurd none resolved⟩
  · rw [erased]
    exact ⟨provider, fun none => by simp [field none]⟩

theorem Registered.forgetAbsent {p : BridgePublisher} (registered : p.Registered)
    (present : Finset Text) : (p.forgetAbsent present).Registered := by
  refine ⟨by simpa using registered.provider, fun none => ?_⟩
  have empty := registered.field (by simpa using none)
  exact Finset.subset_empty.mp (empty ▸ forgetAbsent_published_subset p present)

@[simp] theorem onTimer_published (p : BridgePublisher) (r : Registration) :
    (p.onTimer r).publisher.published = p.published := by
  rcases onTimer_cases p r with ⟨-, t⟩ | ⟨-, -, t⟩ | ⟨-, -, -, -, -, t⟩ | ⟨-, -, -, -, t⟩ | ⟨-, -, -, -, t⟩
  all_goals rw [t]

end BridgePublisher

end CentralSquawk
