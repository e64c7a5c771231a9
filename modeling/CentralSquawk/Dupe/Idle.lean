import CentralSquawk.Dupe.Mirror

/-!
# Passing a sweep over

`ApplyAssignments` returns early on an empty snapshot when nothing is published.
What it relies on is that nothing is then up on the bridge either, with flight
plans entering and leaving EuroScope's list all along.
-/

namespace CentralSquawk.Dupe
open Library

structure Listing where
  world : World
  listed : Finset Text

inductive Change where
  | event (e : Event)
  | list (callsign : Text)
  | delist (callsign : Text)

/-- A sweep meets flights of the list, and has met all of them when it ends. -/
def meets (listed seen : Finset Text) : Event → Bool
  | .plugin (.main (.flight fp _)) => fp.key.all (fun callsign => callsign ∈ listed)
  | .plugin (.main .forgetAbsent) => listed ⊆ seen
  | _ => true

def Listing.enabled (s : Listing) : Change → Bool
  | .event e => s.world.enabled e && meets s.listed s.world.system.main.seen e
  | _ => true

/-- The bridge retires the value of a flight whose plan leaves the list. -/
def Listing.effect [Secret] (s : Listing) : Change → Listing
  | .event e => { s with world := s.world.effect e }
  | .list callsign => { s with listed := insert callsign s.listed }
  | .delist callsign =>
    { world := { s.world with bridge := s.world.bridge.clearFlag callsign }
      listed := s.listed.erase callsign }

def listing [Secret] : Machine Listing Change where
  init := ⟨published.init, ∅⟩
  enabled := Listing.enabled
  effect := Listing.effect

/-- A sweep over any flight plans would do nothing, and there is nothing for it to do. -/
structure Idle (s : Listing) : Prop where
  sweep : ∀ plans,
    let swept := fullSweep s.world.system.plugin.ssrCache s.world.system.plugin.bridge plans
    swept.squawks = [] ∧ swept.calls = [] ∧ swept.publisher = s.world.system.plugin.bridge
  flags : s.world.bridge.flagged = ∅

section
variable [Secret]

theorem effect_flagged (w : World) (e : Event) {callsign : Text}
    (flagged : callsign ∈ (published.effect w e).bridge.flagged) :
    callsign ∈ w.bridge.flagged ∨
      ∃ fp answer, e = .plugin (.main (.flight fp answer)) ∧ fp.key = some callsign := by
  cases e with
  | join other => exact Or.inl flagged
  | leave other => exact Or.inl (Finset.mem_of_mem_erase flagged)
  | plugin a =>
    cases a with
    | elapse duration => exact Or.inl flagged
    | worker a => exact Or.inl flagged
    | main a =>
      cases a with
      | bridgeTimer registration =>
        rw [effect_timer_bridge] at flagged
        exact Or.inl flagged
      | flight fp answer =>
        cases named : fp.key with
        | none =>
          obtain ⟨bridge, -⟩ := effect_flight_skipped w {} answer named
          rw [bridge] at flagged
          exact Or.inl flagged
        | some other =>
          obtain ⟨bridge, -⟩ := effect_flight_named w {} answer named
          rw [bridge] at flagged
          by_cases this : callsign = other
          · exact Or.inr ⟨fp, answer, rfl, by rw [named, this]⟩
          · rw [publishDupe_other_flag this] at flagged
            exact Or.inl flagged
      | _ => exact Or.inl flagged

structure Mirrored (s : Listing) : Prop where
  covered : Covered s.world
  listed : s.world.bridge.flagged ⊆ s.listed

theorem mirrored_event {s : Listing} {e : Event} (on : listing.enabled s (.event e) = true)
    (before : Mirrored s) : Mirrored (listing.effect s (.event e)) := by
  obtain ⟨covered, listed⟩ := before
  obtain ⟨enabled, met⟩ := Bool.and_eq_true_iff.mp on
  constructor
  · refine covered_step enabled ?_ covered
    rintro rfl
    have every : s.listed ⊆ s.world.system.main.seen := by simpa [meets] using met
    exact listed.trans every
  · intro callsign flagged
    rcases effect_flagged s.world e flagged with earlier | ⟨fp, answer, rfl, named⟩
    · exact listed earlier
    · have within : callsign ∈ s.listed := by simpa [meets, named] using met
      exact within

theorem mirrored : listing.Invariant Mirrored := by
  refine Machine.invariant_of_step ⟨⟨⟨fun _ => rfl, fun _ => rfl⟩, ?_⟩, ?_⟩ ?_
  · simp [listing, published, Bridge.empty]
  · simp [listing, published, Bridge.empty]
  rintro s change on before
  cases change with
  | event e => exact mirrored_event on before
  | list callsign => exact ⟨⟨before.covered.registered, before.covered.covered⟩,
      before.listed.trans (Finset.subset_insert _ _)⟩
  | delist callsign =>
    obtain ⟨⟨registered, covered⟩, listed⟩ := before
    exact ⟨⟨registered, (Finset.erase_subset _ _).trans covered⟩, Finset.erase_subset_erase _ listed⟩

/-- The early return of `ApplyAssignments` skips nothing. -/
theorem idle_sweep_skips_nothing (changes : List Change) :
    let s := listing.run changes
    idleSweep s.world.system.plugin.ssrCache s.world.system.plugin.bridge = true → Idle s := by
  intro s idle
  constructor
  · intro plans
    obtain ⟨seen, swept⟩ := fullSweep_of_idle idle plans
    simp [swept]
  · obtain ⟨-, unpublished⟩ := idleSweep_iff.mp idle
    have covered := (mirrored changes).covered.covered
    rw [unpublished] at covered
    exact Finset.subset_empty.mp covered

end

def raised : List Change :=
  marked.map .event ++ [.event (.join aircraft), .list aircraft] ++ sweep.map .event

def emptied : List Event := steps (iterations 50 (.answered 200 (.json (.object []))))

set_option maxRecDepth 100000 in
/-- The server drops every flight while a flag is up; the sweep after it lowers the flag. -/
theorem idle_sweep_skips_nothing_emptied :
    ((@listing parisSecret).run raised).world.bridge.flagged = {aircraft} ∧
      Idle ((@listing parisSecret).run (raised ++ (emptied ++ sweep).map .event)) :=
  ⟨by decide +kernel, @idle_sweep_skips_nothing parisSecret _ (by decide +kernel)⟩

end CentralSquawk.Dupe
