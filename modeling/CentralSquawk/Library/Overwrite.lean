import Mathlib.Data.List.Perm.Basic
import Mathlib.Data.List.Nodup
import Mathlib.Logic.Function.Basic

/-!
# Writers that agree on the value

Several writers share a cell. A writer either leaves it alone or brings it to the
one value that every writer would bring it to, and what a writer may touch does
not depend on what it wrote. Then the cell converges, whoever writes when. Writers
that have a cell each do not even have to agree.
-/

namespace Library

structure Overwrite (Writer Cell : Type*) where
  may : Writer → Cell → Bool
  target : Cell → Cell
  may_target : ∀ w c, may w (target c) = may w c
  target_target : ∀ c, target (target c) = target c

namespace Overwrite

variable {Writer Cell : Type*} (o : Overwrite Writer Cell)

def write (w : Writer) (c : Cell) : Cell := if o.may w c then o.target c else c

def writeAll (writers : List Writer) (c : Cell) : Cell := writers.foldl (fun c w => o.write w c) c

@[simp] theorem may_write (w w' : Writer) (c : Cell) : o.may w' (o.write w c) = o.may w' c := by
  unfold write
  split
  · exact o.may_target w' c
  · rfl

@[simp] theorem target_write (w : Writer) (c : Cell) : o.target (o.write w c) = o.target c := by
  unfold write
  split
  · exact o.target_target c
  · rfl

theorem write_comm (w w' : Writer) (c : Cell) : o.write w (o.write w' c) = o.write w' (o.write w c) := by
  have both : ∀ w w' : Writer, o.write w (o.write w' c) = if o.may w c || o.may w' c then o.target c else c := by
    intro w w'
    rw [write, may_write, target_write]
    cases o.may w c with
    | true => rfl
    | false => rfl
  rw [both, both, Bool.or_comm]

/-- The order of the writers does not matter. -/
theorem writeAll_perm {writers writers' : List Writer} (perm : writers.Perm writers') (c : Cell) :
    o.writeAll writers c = o.writeAll writers' c := by
  apply perm.foldl_eq'
  intro w _ w' _ c
  exact o.write_comm w' w c

@[simp] theorem may_writeAll (writers : List Writer) (w : Writer) (c : Cell) :
    o.may w (o.writeAll writers c) = o.may w c := by
  induction writers generalizing c with
  | nil => rfl
  | cons first rest ih =>
    show o.may w (o.writeAll rest (o.write first c)) = _
    rw [ih, may_write]

@[simp] theorem target_writeAll (writers : List Writer) (c : Cell) :
    o.target (o.writeAll writers c) = o.target c := by
  induction writers generalizing c with
  | nil => rfl
  | cons first rest ih =>
    show o.target (o.writeAll rest (o.write first c)) = _
    rw [ih, target_write]

theorem writeAll_settled (writers : List Writer) {c : Cell} (settled : o.target c = c) :
    o.writeAll writers c = c := by
  induction writers with
  | nil => rfl
  | cons first rest ih =>
    show o.writeAll rest (o.write first c) = c
    have same : o.write first c = c := by
      unfold write
      split
      · exact settled
      · rfl
    rw [same, ih]

/-- One entitled writer brings the cell to its target, for good. -/
theorem writeAll_of_may {writers : List Writer} {w : Writer} (wrote : w ∈ writers) {c : Cell}
    (may : o.may w c = true) : o.writeAll writers c = o.target c := by
  obtain ⟨before, after, rfl⟩ := List.append_of_mem wrote
  have here : o.write w (o.writeAll before c) = o.target c := by
    rw [write, may_writeAll, may, if_pos rfl, target_writeAll]
  unfold writeAll
  rw [List.foldl_append, List.foldl_cons]
  show o.writeAll after (o.write w (o.writeAll before c)) = _
  rw [here]
  exact o.writeAll_settled after (o.target_target c)

end Overwrite

/-! ### Writers with cells of their own -/

namespace OwnCells

variable {Writer Key Value : Type*} [DecidableEq Key] (key : Writer → Key) (value : Writer → Option Value)

def put (cells : Key → Option Value) (w : Writer) : Key → Option Value :=
  match value w with
  | some v => Function.update cells (key w) (some v)
  | none => cells

theorem put_comm {w w' : Writer} (differ : key w ≠ key w') (cells : Key → Option Value) :
    put key value (put key value cells w) w' = put key value (put key value cells w') w := by
  unfold put
  cases value w with
  | none => rfl
  | some v =>
    cases value w' with
    | none => rfl
    | some v' => exact Function.update_comm differ (some v) (some v') cells

/-- Where every writer has a key of its own, their order does not matter. -/
theorem putAll_perm {writers writers' : List Writer} (perm : writers.Perm writers')
    (once : (writers.map key).Nodup) (cells : Key → Option Value) :
    writers.foldl (put key value) cells = writers'.foldl (put key value) cells := by
  apply perm.foldl_eq'
  intro w member w' member' cells
  by_cases same : key w = key w'
  · obtain rfl := List.inj_on_of_nodup_map once member member' same
    rfl
  · exact put_comm key value same cells

end OwnCells

end Library
