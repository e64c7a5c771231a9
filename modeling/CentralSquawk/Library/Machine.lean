import Mathlib.Logic.Basic
import Mathlib.Data.List.Induction

/-!
# Guarded machines

A machine is driven by a list of actions. An action that is not enabled leaves
the state alone, so a claim about every list of actions is a claim about every
interleaving of the parties that take them.
-/

namespace Library

structure Machine (State Action : Type*) where
  init : State
  enabled : State → Action → Bool
  effect : State → Action → State

namespace Machine

variable {State Action History : Type*} (m : Machine State Action)

def step (s : State) (a : Action) : State := if m.enabled s a then m.effect s a else s

def runFrom (s : State) (actions : List Action) : State := actions.foldl m.step s

def run (actions : List Action) : State := m.runFrom m.init actions

theorem run_snoc (actions : List Action) (a : Action) :
    m.run (actions ++ [a]) = m.step (m.run actions) a := by
  simp [run, runFrom]

variable {m}

theorem run_append (first second : List Action) : m.run (first ++ second) = m.runFrom (m.run first) second := by
  simp [run, runFrom]

theorem step_on {s : State} {a : Action} (on : m.enabled s a = true) : m.step s a = m.effect s a :=
  if_pos on

theorem step_off {s : State} {a : Action} (off : m.enabled s a = false) : m.step s a = s := by
  simp [step, off]

variable (m)

/-! ### Invariants -/

def Invariant (P : State → Prop) : Prop := ∀ actions, P (m.run actions)

variable {m}

/-- The invariant rule, under an invariant that is already known. -/
theorem Invariant.strengthen {J P : State → Prop} (known : m.Invariant J) (start : P m.init)
    (preserved : ∀ s a, m.enabled s a = true → J s → P s → P (m.effect s a)) : m.Invariant P := by
  intro actions
  induction actions using List.reverseRecOn with
  | nil => exact start
  | append_singleton actions a ih =>
    rw [run_snoc, step]
    split
    · rename_i on
      exact preserved _ _ on (known actions) ih
    · exact ih

theorem invariant_of_step {P : State → Prop} (start : P m.init)
    (preserved : ∀ s a, m.enabled s a = true → P s → P (m.effect s a)) : m.Invariant P :=
  Invariant.strengthen (J := fun _ => True) (fun _ => trivial) start
    (fun s a on _ holds => preserved s a on holds)

theorem Invariant.and {P Q : State → Prop} (left : m.Invariant P) (right : m.Invariant Q) :
    m.Invariant (fun s => P s ∧ Q s) := fun actions => ⟨left actions, right actions⟩

variable (m)

/-! ### Runs whose steps meet a condition -/

/-- Every step taken from `s` meets `C` in the state it is taken in. -/
def AlongFrom (C : State → Action → Prop) : State → List Action → Prop
  | _, [] => True
  | s, a :: rest => (m.enabled s a = true → C s a) ∧ AlongFrom C (m.step s a) rest

def Along (C : State → Action → Prop) (actions : List Action) : Prop := m.AlongFrom C m.init actions

instance decidableAlongFrom (C : State → Action → Prop) [∀ s a, Decidable (C s a)] :
    ∀ s actions, Decidable (m.AlongFrom C s actions)
  | _, [] => inferInstanceAs (Decidable True)
  | s, a :: rest =>
    have := decidableAlongFrom C (m.step s a) rest
    inferInstanceAs (Decidable ((m.enabled s a = true → C s a) ∧ m.AlongFrom C (m.step s a) rest))

instance (C : State → Action → Prop) [∀ s a, Decidable (C s a)] (actions : List Action) :
    Decidable (m.Along C actions) := m.decidableAlongFrom C m.init actions

variable {m}

theorem alongFrom_snoc {C : State → Action → Prop} {s : State} {actions : List Action} {a : Action} :
    m.AlongFrom C s (actions ++ [a]) ↔ m.AlongFrom C s actions ∧
      (m.enabled (m.runFrom s actions) a = true → C (m.runFrom s actions) a) := by
  induction actions generalizing s with
  | nil => simp [AlongFrom, runFrom]
  | cons b rest ih =>
    simp only [List.cons_append, AlongFrom, ih, and_assoc]
    rfl

/-- The invariant rule for the runs whose steps all meet `C`. -/
theorem Invariant.along {C : State → Action → Prop} {J P : State → Prop} (known : m.Invariant J)
    (start : P m.init)
    (preserved : ∀ s a, m.enabled s a = true → C s a → J s → P s → P (m.effect s a)) :
    ∀ actions, m.Along C actions → P (m.run actions) := by
  intro actions
  induction actions using List.reverseRecOn with
  | nil => exact fun _ => start
  | append_singleton actions a ih =>
    intro along
    obtain ⟨before, here⟩ := alongFrom_snoc.mp along
    rw [run_snoc, step]
    split
    · rename_i on
      exact preserved _ _ on (here on) (known actions) (ih before)
    · exact ih before

/-- When `C` says exactly whether a step keeps `P`, the runs whose steps all meet `C` are exactly
those that never leave `P`. -/
theorem along_iff {C : State → Action → Prop} {J P : State → Prop} (known : m.Invariant J) (start : P m.init)
    (exact : ∀ s a, m.enabled s a = true → J s → P s → (C s a ↔ P (m.effect s a))) (actions : List Action) :
    m.Along C actions ↔ ∀ past, past <+: actions → P (m.run past) := by
  induction actions using List.reverseRecOn with
  | nil =>
    refine ⟨fun _ past earlier => ?_, fun _ => trivial⟩
    obtain rfl := List.prefix_nil.mp earlier
    exact start
  | append_singleton actions a ih =>
    have split : m.Along C (actions ++ [a]) ↔ m.Along C actions ∧
        (m.enabled (m.run actions) a = true → C (m.run actions) a) := alongFrom_snoc
    rw [split, ih]
    constructor
    · rintro ⟨before, here⟩ past earlier
      rcases List.prefix_concat_iff.mp earlier with rfl | within
      · have last := before actions List.prefix_rfl
        rw [run_snoc, step]
        split
        · rename_i on
          exact (exact _ _ on (known actions) last).mp (here on)
        · exact last
      · exact before past within
    · intro all
      have before : ∀ past, past <+: actions → P (m.run past) :=
        fun past earlier => all past (List.prefix_concat_iff.mpr (Or.inr earlier))
      refine ⟨before, fun on => ?_⟩
      have after := all (actions ++ [a]) List.prefix_rfl
      rw [run_snoc, step_on on] at after
      exact (exact _ _ on (known actions) (before actions List.prefix_rfl)).mpr after

/-- When `P` outlives a step exactly if the step meets `C`, it outlives exactly the runs whose steps
all do. -/
theorem run_iff_along {C : State → Action → Prop} {P : State → Prop} (start : P m.init)
    (exact : ∀ s a, m.enabled s a = true → (P (m.effect s a) ↔ P s ∧ C s a)) (actions : List Action) :
    P (m.run actions) ↔ m.Along C actions := by
  induction actions using List.reverseRecOn with
  | nil => exact ⟨fun _ => trivial, fun _ => start⟩
  | append_singleton actions a ih =>
    have split : m.Along C (actions ++ [a]) ↔ m.Along C actions ∧
        (m.enabled (m.run actions) a = true → C (m.run actions) a) := alongFrom_snoc
    rw [split, ← ih, run_snoc, step]
    split
    · rename_i on
      rw [exact _ _ on]
      exact ⟨fun both => ⟨both.1, fun _ => both.2⟩, fun both => ⟨both.1, both.2 on⟩⟩
    · rename_i off
      exact ⟨fun holds => ⟨holds, fun on => absurd on off⟩, fun both => both.1⟩

/-! ### History variables -/

variable (m)

/-- `m` with a history that `next` updates from the state a step starts in and the action it takes. -/
def observe (first : History) (next : History → State → Action → History) :
    Machine (State × History) Action where
  init := (m.init, first)
  enabled s a := m.enabled s.1 a
  effect s a := (m.effect s.1 a, next s.2 s.1 a)

variable {m} {first : History} {next : History → State → Action → History}

theorem observe_step_fst (x : State × History) (a : Action) :
    ((m.observe first next).step x a).1 = m.step x.1 a := by
  show (if m.enabled x.1 a then (m.effect x.1 a, next x.2 x.1 a) else x).1 = _
  unfold step
  split <;> rfl

theorem observe_run_fst (actions : List Action) :
    ((m.observe first next).run actions).1 = m.run actions := by
  induction actions using List.reverseRecOn with
  | nil => rfl
  | append_singleton actions a ih => rw [run_snoc, run_snoc, observe_step_fst, ih]

theorem alongFrom_observe {C : State → Action → Prop} {x : State × History} {actions : List Action} :
    (m.observe first next).AlongFrom (fun x a => C x.1 a) x actions ↔ m.AlongFrom C x.1 actions := by
  induction actions generalizing x with
  | nil => exact Iff.rfl
  | cons a rest ih =>
    rw [AlongFrom, AlongFrom, ih, observe_step_fst]
    exact Iff.rfl

theorem Invariant.observed {P : State → Prop} (holds : m.Invariant P) :
    (m.observe first next).Invariant (fun s => P s.1) := by
  intro actions
  show P ((m.observe first next).run actions).1
  rw [observe_run_fst]
  exact holds actions

/-- `Invariant.along` for a watched machine, under a condition on the machine alone. -/
theorem Invariant.alongObserved {C : State → Action → Prop} {J P : State × History → Prop}
    (known : (m.observe first next).Invariant J) (start : P (m.init, first))
    (preserved : ∀ s h a, m.enabled s a = true → C s a → J (s, h) → P (s, h) →
      P (m.effect s a, next h s a)) :
    ∀ actions, m.Along C actions → P ((m.observe first next).run actions) :=
  fun actions along => Invariant.along known start
    (fun x a on here holds before => preserved x.1 x.2 a on here holds before) actions
    (alongFrom_observe.mpr along)

end Machine

end Library
