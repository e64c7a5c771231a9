import Mathlib.Data.List.Basic
import Mathlib.Tactic.Common

/-!
# Events that keep their distance

An event says how long it is to be before the next one. A record, newest first, in
which every event has waited bounds how many of them fit into a window.
-/

namespace Library

variable {Event : Type*}

def Spaced (time wait : Event → Nat) (events : List Event) : Prop :=
  events.Pairwise (fun later e => time e + wait e ≤ time later)

namespace Spaced

variable {time wait : Event → Nat} {events : List Event} {e : Event}

theorem cons (spaced : Spaced time wait events)
    (waited : ∀ last ∈ events.head?, time last + wait last ≤ time e) : Spaced time wait (e :: events) := by
  refine List.pairwise_cons.mpr ⟨fun x member => ?_, spaced⟩
  cases events with
  | nil => contradiction
  | cons last rest =>
    have soon := waited last rfl
    rcases List.mem_cons.mp member with rfl | earlier
    · exact soon
    · have before : time x + wait x ≤ time last := (List.pairwise_cons.mp spaced).1 x earlier
      omega

/-- How long the last event asks for does not bear on those before it. -/
theorem replace {new : Event} (spaced : Spaced time wait (e :: events)) (same : time new = time e) :
    Spaced time wait (new :: events) := by
  obtain ⟨all, rest⟩ := List.pairwise_cons.mp spaced
  exact List.pairwise_cons.mpr ⟨fun x member => same ▸ all x member, rest⟩

theorem span {gap first : Nat} (spaced : Spaced time wait (e :: events))
    (wide : ∀ x ∈ events, gap ≤ wait x) (since : ∀ x ∈ e :: events, first ≤ time x) :
    first + gap * events.length ≤ time e := by
  induction events generalizing e with
  | nil => simpa using since e
  | cons last rest ih =>
    obtain ⟨all, spaced⟩ := List.pairwise_cons.mp spaced
    have before := ih spaced (fun x member => wide x (List.mem_cons_of_mem _ member))
      (fun x member => since x (List.mem_cons_of_mem _ member))
    have waited := all last List.mem_cons_self
    have long := wide last List.mem_cons_self
    rw [List.length_cons, Nat.mul_succ]
    omega

theorem filter_tail {p : Event → Bool} {rest : List Event} (chosen : events.filter p = e :: rest) :
    rest ⊆ events.tail := by
  cases events with
  | nil => contradiction
  | cons x events =>
    rw [List.filter_cons] at chosen
    split at chosen
    · obtain ⟨-, rfl⟩ := List.cons.inj chosen
      exact List.filter_subset_self events
    · intro y member
      have kept : y ∈ events.filter p := chosen ▸ List.mem_cons_of_mem e member
      exact List.mem_of_mem_filter kept

/-- Of the events that ask for `gap`, a window takes one more than the gaps that fit into it. The last
event need not have asked for anything yet. -/
theorem window {gap : Nat} (spaced : Spaced time wait events) (p : Event → Bool)
    (wide : ∀ x ∈ events.tail, p x = true → gap ≤ wait x) (positive : 0 < gap) (first n : Nat) :
    gap * (events.countP (fun x => p x && first ≤ time x && time x < first + n)) < n + gap := by
  rw [List.countP_eq_length_filter]
  cases chosen : events.filter (fun x => p x && first ≤ time x && time x < first + n) with
  | nil =>
    rw [List.length_nil, Nat.mul_zero]
    omega
  | cons e rest =>
    have inside : ∀ x ∈ e :: rest, p x = true ∧ first ≤ time x ∧ time x < first + n := by
      intro x member
      rw [← chosen] at member
      simpa [and_assoc] using (List.mem_filter.mp member).2
    have fewer : Spaced time wait (e :: rest) := chosen ▸ List.Pairwise.filter _ spaced
    have reached : first + gap * rest.length ≤ time e := by
      apply fewer.span
      · intro x member
        exact wide x (filter_tail chosen member) (inside x (List.mem_cons_of_mem _ member)).1
      · exact fun x member => (inside x member).2.1
    have last := (inside e List.mem_cons_self).2.2
    rw [List.length_cons, Nat.mul_succ]
    omega

end Spaced

end Library
