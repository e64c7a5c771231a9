import Mathlib.Data.List.AList

/-!
# Building a map in which the first entry of a key wins

A loop reads each element of a list, skips what it cannot read, and stores the
rest under its key unless the key is already there.
-/

namespace Library.FirstWins

variable {α κ ν : Type*} [DecidableEq κ]

def add (m : AList (fun _ : κ => ν)) (k : κ) (v : ν) : AList (fun _ : κ => ν) :=
  if k ∈ m then m else m.insert k v

def store (read : α → Option (κ × ν)) (m : AList (fun _ : κ => ν)) (a : α) : AList (fun _ : κ => ν) :=
  match read a with
  | some (k, v) => add m k v
  | none => m

def build (read : α → Option (κ × ν)) (l : List α) : AList (fun _ : κ => ν) := l.foldl (store read) ∅

/-- What an element has to say about one key. -/
def under (read : α → Option (κ × ν)) (k : κ) (a : α) : Option ν :=
  (read a).bind (fun e => if e.1 = k then some e.2 else none)

theorem under_eq_some {read : α → Option (κ × ν)} {k : κ} {a : α} {v : ν} :
    under read k a = some v ↔ read a = some (k, v) := by
  unfold under
  cases read a with
  | none => simp
  | some e =>
    obtain ⟨key, value⟩ := e
    by_cases same : key = k <;> simp [same]

theorem lookup_add (m : AList (fun _ : κ => ν)) (k k' : κ) (v : ν) :
    (add m k' v).lookup k = (m.lookup k).or (if k' = k then some v else none) := by
  unfold add
  split
  · rename_i present
    by_cases same : k' = k
    · subst same
      obtain ⟨old, stored⟩ := Option.isSome_iff_exists.mp (AList.lookup_isSome.mpr present)
      simp [stored]
    · simp [same]
  · rename_i absent
    by_cases same : k' = k
    · subst same
      simp [AList.lookup_eq_none.mpr absent]
    · have other : k ≠ k' := fun equal => same equal.symm
      simp [same, AList.lookup_insert_ne other]

theorem lookup_store (read : α → Option (κ × ν)) (m : AList (fun _ : κ => ν)) (a : α) (k : κ) :
    (store read m a).lookup k = (m.lookup k).or (under read k a) := by
  unfold store under
  cases read a with
  | none => simp
  | some e => simp [lookup_add]

theorem lookup_foldl_store (read : α → Option (κ × ν)) (l : List α) (m : AList (fun _ : κ => ν)) (k : κ) :
    (l.foldl (store read) m).lookup k = (m.lookup k).or (l.findSome? (under read k)) := by
  induction l generalizing m with
  | nil => simp
  | cons a rest ih =>
    rw [List.foldl_cons, ih, lookup_store, Option.or_assoc, List.findSome?_cons]
    cases under read k a <;> simp

theorem lookup_build (read : α → Option (κ × ν)) (l : List α) (k : κ) :
    (build read l).lookup k = l.findSome? (under read k) := by
  simp [build, lookup_foldl_store]

/-- The value stored under a key is the one of the first element that could be read under it. -/
theorem lookup_build_eq_some {read : α → Option (κ × ν)} {l : List α} {k : κ} {v : ν} :
    (build read l).lookup k = some v ↔
      ∃ before a after, l = before ++ a :: after ∧ read a = some (k, v) ∧
        ∀ x ∈ before, ∀ w, read x ≠ some (k, w) := by
  have unread : ∀ x : α, under read k x = none ↔ ∀ w, read x ≠ some (k, w) := by
    intro x
    rw [Option.eq_none_iff_forall_ne_some]
    exact forall_congr' (fun w => not_congr under_eq_some)
  rw [lookup_build, List.findSome?_eq_some_iff]
  simp only [under_eq_some, unread]

theorem mem_build {read : α → Option (κ × ν)} {l : List α} {k : κ} :
    k ∈ build read l ↔ ∃ a ∈ l, ∃ v, read a = some (k, v) := by
  rw [← AList.lookup_isSome, lookup_build, List.findSome?_isSome_iff]
  simp only [Option.isSome_iff_exists, under_eq_some]

end Library.FirstWins
