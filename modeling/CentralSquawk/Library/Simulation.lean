import CentralSquawk.Library.Machine

/-!
# Forward simulation

A machine is simulated by another when each of its steps is answered by some steps of
the other that keep them related. Every run is then answered by a run, and what the
other machine never leaves carries over. Two machines in lockstep answer every action
by the same action.
-/

namespace Library

variable {State Action Abstract Use : Type*}

/-- Each step of `m` is answered by steps of `n`, all of them `allowed`. -/
structure Simulates (m : Machine State Action) (n : Machine Abstract Use) (allowed : Use → Prop)
    (related : State → Abstract → Prop) : Prop where
  start : related m.init n.init
  answers : ∀ s a t, m.enabled s a = true → related s t →
    ∃ uses, (∀ u ∈ uses, allowed u) ∧ related (m.effect s a) (n.runFrom t uses)

variable {m : Machine State Action} {n : Machine Abstract Use} {allowed : Use → Prop}
  {related : State → Abstract → Prop}

theorem Simulates.run (simulates : Simulates m n allowed related) (actions : List Action) :
    ∃ uses, (∀ u ∈ uses, allowed u) ∧ related (m.run actions) (n.run uses) := by
  induction actions using List.reverseRecOn with
  | nil => exact ⟨[], by simp, simulates.start⟩
  | append_singleton actions a ih =>
    obtain ⟨uses, within, so_far⟩ := ih
    rw [Machine.run_snoc, Machine.step]
    split
    · rename_i on
      obtain ⟨more, also, after⟩ := simulates.answers _ a _ on so_far
      refine ⟨uses ++ more, fun u member => ?_, ?_⟩
      · exact (List.mem_append.mp member).elim (within u) (also u)
      · simpa [Machine.run, Machine.runFrom] using after
    · exact ⟨uses, within, so_far⟩

/-- What holds of every run of the other machine holds, related, of every run. -/
theorem Simulates.transfer (simulates : Simulates m n allowed related) {P : Abstract → Prop} {Q : State → Prop}
    (known : n.Invariant P) (carries : ∀ s t, related s t → P t → Q s) : m.Invariant Q := by
  intro actions
  obtain ⟨uses, -, same⟩ := simulates.run actions
  exact carries _ _ same (known uses)

/-! ### Lockstep -/

structure Lockstep (m : Machine State Action) (n : Machine Abstract Action)
    (related : State → Abstract → Prop) : Prop where
  start : related m.init n.init
  together : ∀ s t a, related s t → m.enabled s a = n.enabled t a
  moves : ∀ s t a, m.enabled s a = true → related s t → related (m.effect s a) (n.effect t a)

theorem Lockstep.run {n : Machine Abstract Action} (lockstep : Lockstep m n related) (actions : List Action) :
    related (m.run actions) (n.run actions) := by
  induction actions using List.reverseRecOn with
  | nil => exact lockstep.start
  | append_singleton actions a ih =>
    have together := lockstep.together _ _ a ih
    rw [Machine.run_snoc, Machine.run_snoc]
    cases on : m.enabled (m.run actions) a with
    | true =>
      rw [Machine.step_on on, Machine.step_on (together ▸ on)]
      exact lockstep.moves _ _ a on ih
    | false =>
      rw [Machine.step_off on, Machine.step_off (together ▸ on)]
      exact ih

end Library
