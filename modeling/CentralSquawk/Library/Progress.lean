import CentralSquawk.Library.Machine
import Mathlib.Tactic.Common

/-!
# Steps that run out

A party whose every step lowers a natural number, which the steps of the others
never raise, has only so many steps left in whatever order all of them are taken.
Where it can always take another unless it is done, it gets done. Who waits for a
step keeps waiting until it is taken.
-/

namespace Library.Machine

variable {State Action : Type*} (m : Machine State Action)

def stepsOf (party : Action → Bool) : State → List Action → Nat
  | _, [] => 0
  | s, a :: rest =>
    (if m.enabled s a && party a then 1 else 0) + stepsOf party (m.step s a) rest

/-- What is left for a party to do, in the states that meet `J`. -/
structure Variant (J : State → Prop) (party : Action → Bool) (rank : State → Nat) : Prop where
  stays : ∀ s a, m.enabled s a = true → J s → J (m.effect s a)
  lowers : ∀ s a, m.enabled s a = true → J s → party a = true → rank (m.effect s a) < rank s
  others : ∀ s a, m.enabled s a = true → J s → party a = false → rank (m.effect s a) ≤ rank s

variable {m} {J : State → Prop} {party : Action → Bool} {rank : State → Nat}

/-- The invariant rule from any state, for the steps that meet `C`. -/
theorem alongFrom_keeps {C : State → Action → Prop} {P : State → Prop}
    (preserved : ∀ s a, m.enabled s a = true → C s a → P s → P (m.effect s a)) {s : State}
    {actions : List Action} (along : m.AlongFrom C s actions) (start : P s) :
    P (m.runFrom s actions) := by
  induction actions generalizing s with
  | nil => exact start
  | cons a rest ih =>
    obtain ⟨here, later⟩ := along
    apply ih later
    unfold step
    split
    · rename_i on
      exact preserved s a on (here on) start
    · exact start

theorem alongFrom_true (s : State) (actions : List Action) : m.AlongFrom (fun _ _ => True) s actions := by
  induction actions generalizing s with
  | nil => trivial
  | cons a rest ih => exact ⟨fun _ => trivial, ih _⟩

theorem runFrom_keeps {P : State → Prop} (preserved : ∀ s a, m.enabled s a = true → P s → P (m.effect s a))
    {s : State} (start : P s) (actions : List Action) : P (m.runFrom s actions) :=
  alongFrom_keeps (fun s a on _ => preserved s a on) (alongFrom_true s actions) start

/-! ### Waiting for a step -/

variable (m)

def TakesFrom (E : State → Action → Prop) : State → List Action → Prop
  | _, [] => False
  | s, a :: rest => m.enabled s a = true ∧ E s a ∨ TakesFrom E (m.step s a) rest

variable {m} {C E : State → Action → Prop} {P : State → Prop}

/-- The rule for what holds until a step that meets `E` is taken. -/
theorem waits (keeps : ∀ s a, m.enabled s a = true → C s a → ¬ E s a → P s → P (m.effect s a)) {s : State}
    {actions : List Action} (along : m.AlongFrom C s actions) (start : P s) :
    m.TakesFrom E s actions ∨ P (m.runFrom s actions) := by
  induction actions generalizing s with
  | nil => exact Or.inr start
  | cons a rest ih =>
    obtain ⟨here, later⟩ := along
    cases on : m.enabled s a with
    | false =>
      have rests := ih later ((step_off on).symm ▸ start)
      exact rests.imp_left Or.inr
    | true =>
      by_cases taken : E s a
      · exact Or.inl (Or.inl ⟨on, taken⟩)
      · have moved : P (m.step s a) := by
          rw [step_on on]
          exact keeps s a on (here on) taken start
        exact (ih later moved).imp_left Or.inr

/-- From `P` a step that meets `F` leads to `Q`, which then holds until a step that meets `E` is taken. -/
theorem waits_through {F : State → Action → Prop} {Q : State → Prop}
    (keeps : ∀ s a, m.enabled s a = true → C s a → ¬ E s a → P s → P (m.effect s a))
    (leads : ∀ s a, m.enabled s a = true → C s a → ¬ E s a → F s a → P s → Q (m.effect s a))
    (then_keeps : ∀ s a, m.enabled s a = true → C s a → ¬ E s a → Q s → Q (m.effect s a)) {s : State}
    {actions : List Action} (along : m.AlongFrom C s actions) (start : P s) (taken : m.TakesFrom F s actions) :
    m.TakesFrom E s actions ∨ Q (m.runFrom s actions) := by
  induction actions generalizing s with
  | nil => contradiction
  | cons a rest ih =>
    obtain ⟨here, later⟩ := along
    cases on : m.enabled s a with
    | false =>
      have still := taken.resolve_left (by simp [on])
      have rests := ih later ((step_off on).symm ▸ start) still
      exact rests.imp_left Or.inr
    | true =>
      by_cases exit : E s a
      · exact Or.inl (Or.inl ⟨on, exit⟩)
      rcases taken with ⟨-, now⟩ | still
      · have reached : Q (m.step s a) := by
          rw [step_on on]
          exact leads s a on (here on) exit now start
        exact (waits then_keeps later reached).imp_left Or.inr
      · have moved : P (m.step s a) := by
          rw [step_on on]
          exact keeps s a on (here on) exit start
        exact (ih later moved still).imp_left Or.inr

theorem alongFrom_append {s : State} {first second : List Action} :
    m.AlongFrom C s (first ++ second) ↔ m.AlongFrom C s first ∧ m.AlongFrom C (m.runFrom s first) second := by
  induction first generalizing s with
  | nil => simp [AlongFrom, runFrom]
  | cons a rest ih =>
    simp only [List.cons_append, AlongFrom, ih, and_assoc]
    rfl

theorem takesFrom_append {s : State} {first second : List Action} :
    m.TakesFrom E s (first ++ second) ↔ m.TakesFrom E s first ∨ m.TakesFrom E (m.runFrom s first) second := by
  induction first generalizing s with
  | nil => simp [TakesFrom, runFrom]
  | cons a rest ih =>
    simp only [List.cons_append, TakesFrom, ih, or_assoc]
    rfl

namespace Variant

theorem step_le (v : m.Variant J party rank) {s : State} (holds : J s) (a : Action) :
    (if m.enabled s a && party a then 1 else 0) + rank (m.step s a) ≤ rank s := by
  cases on : m.enabled s a with
  | false =>
    rw [step_off on]
    simp
  | true =>
    rw [step_on on]
    cases own : party a with
    | true =>
      have lower := v.lowers s a on holds own
      simp
      omega
    | false =>
      have other := v.others s a on holds own
      simpa using other

theorem step_stays (v : m.Variant J party rank) {s : State} (holds : J s) (a : Action) : J (m.step s a) := by
  cases on : m.enabled s a with
  | false =>
    rw [step_off on]
    exact holds
  | true =>
    rw [step_on on]
    exact v.stays s a on holds

/-- The party's steps, and what is left of its rank after them, are paid for by the rank. -/
theorem bounded (v : m.Variant J party rank) {s : State} (holds : J s) (actions : List Action) :
    m.stepsOf party s actions + rank (m.runFrom s actions) ≤ rank s := by
  induction actions generalizing s with
  | nil => simp [stepsOf, runFrom]
  | cons a rest ih =>
    have first := v.step_le holds a
    have later := ih (v.step_stays holds a)
    show (if m.enabled s a && party a then 1 else 0) + m.stepsOf party (m.step s a) rest +
      rank (m.runFrom (m.step s a) rest) ≤ rank s
    omega

theorem finishes (v : m.Variant J party rank) {done : State → Prop}
    (live : ∀ s, J s → done s ∨ ∃ a, party a = true ∧ m.enabled s a = true) {s : State} (holds : J s) :
    ∃ actions, (∀ a ∈ actions, party a = true) ∧ done (m.runFrom s actions) := by
  induction budget : rank s using Nat.strongRecOn generalizing s with
  | _ n ih =>
    rcases live s holds with there | ⟨a, own, on⟩
    · exact ⟨[], by simp, there⟩
    · have lower := v.lowers s a on holds own
      obtain ⟨rest, all, there⟩ := ih (rank (m.effect s a)) (by omega) (v.stays s a on holds) rfl
      refine ⟨a :: rest, ?_, ?_⟩
      · intro b member
        rcases List.mem_cons.mp member with rfl | later
        · exact own
        · exact all b later
      · show done (m.runFrom (m.step s a) rest)
        rw [step_on on]
        exact there

end Variant

end Library.Machine
