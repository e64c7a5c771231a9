import CentralSquawk.Library.Machine

/-!
# What one party owns

One party of a machine takes the actions `own`, and works on a part of the state,
its view, that the other parties leave alone. Whatever they do in between, the view
becomes what it becomes when the party runs by itself.
-/

namespace Library

variable {State Action View : Type*}

/-- While the machine is `live`, the actions `within` work on the view alone, and only the party's own
actions touch it. -/
structure Shielded (m : Machine State Action) (live : State → Prop) (own : Action → Bool)
    (within : Action → Prop) (view : State → View) : Prop where
  before : ∀ s a, live (m.step s a) → live s
  keeps : ∀ s a, live s → own a = true → within a → live (m.step s a)
  rests : ∀ s a, own a = false → view (m.step s a) = view s
  moves : ∀ s t a, live s → live t → view s = view t → own a = true → within a →
    view (m.step s a) = view (m.step t a)

variable {m : Machine State Action} {live : State → Prop} {own : Action → Bool} {within : Action → Prop}
  {view : State → View}

theorem Shielded.live_before (shielded : Shielded m live own within view) {s : State} {actions : List Action}
    (after : live (m.runFrom s actions)) : live s := by
  induction actions generalizing s with
  | nil => exact after
  | cons a rest ih => exact shielded.before s a (ih after)

/-- The view after an interleaving is the view after the party's own actions. -/
theorem Shielded.alone (shielded : Shielded m live own within view) {s t : State} {actions : List Action}
    (script : ∀ a ∈ actions, own a = true → within a) (after : live (m.runFrom s actions)) (here : live t)
    (same : view s = view t) :
    view (m.runFrom s actions) = view (m.runFrom t (actions.filter own)) := by
  induction actions generalizing s t with
  | nil => exact same
  | cons a rest ih =>
    have now : live s := shielded.live_before after
    have scripted : ∀ b ∈ rest, own b = true → within b :=
      fun b member => script b (List.mem_cons_of_mem a member)
    cases mine : own a with
    | true =>
      have allowed := script a List.mem_cons_self mine
      rw [List.filter_cons_of_pos mine]
      exact ih scripted after (shielded.keeps t a here mine allowed)
        (shielded.moves s t a now here same mine allowed)
    | false =>
      have other : ¬ own a = true := by simp [mine]
      rw [List.filter_cons_of_neg other]
      exact ih scripted after here ((shielded.rests s a mine).trans same)

end Library
