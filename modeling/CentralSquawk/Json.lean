import CentralSquawk.Helpers
import CentralSquawk.Library.Utf8

/-!
# JSON values

What the plugin uses of `nlohmann::json`: the shape of a value, `find`, and
whether `dump()` throws.
-/

namespace CentralSquawk
open Library

/-- A parsed value, with the members of an object in the order of `items()`. The plugin never computes
with a double, so only its bits are kept. -/
inductive Json where
  | null
  | boolean (b : Bool)
  | integer (i : Int)
  | double (bits : UInt64)
  | string (s : Text)
  | array (elements : List Json)
  | object (members : List (Text × Json))

namespace Json

/-- `find`: the member under a key; `none` is `end()`, also for a value that is not an object. -/
def find (j : Json) (key : Text) : Option Json :=
  match j with
  | .object members => (members.find? (fun m => m.1 == key)).map Prod.snd
  | _ => none

def getString : Option Json → Option Text
  | some (.string s) => some s
  | _ => none

def getBoolean : Option Json → Option Bool
  | some (.boolean b) => some b
  | _ => none

theorem getString_eq_some {j : Option Json} {s : Text} : getString j = some s ↔ j = some (.string s) := by
  unfold getString
  split <;> simp_all

theorem getBoolean_getD {j : Option Json} :
    (getBoolean j).getD false = true ↔ j = some (.boolean true) := by
  unfold getBoolean
  split <;> simp_all

theorem object_of_find {j member : Json} {key : Text} (found : j.find key = some member) :
    ∃ members, j = .object members := by
  cases j with
  | object members => exact ⟨members, rfl⟩
  | _ => exact absurd found (by simp [find])

mutual

def utf8 : Json → Bool
  | .string s => Utf8.valid s
  | .array elements => utf8Elements elements
  | .object members => utf8Members members
  | _ => true

def utf8Elements : List Json → Bool
  | [] => true
  | j :: rest => j.utf8 && utf8Elements rest

def utf8Members : List (Text × Json) → Bool
  | [] => true
  | (key, j) :: rest => Utf8.valid key && j.utf8 && utf8Members rest

end

/-- `nlohmann::json::type_error` 316, "invalid UTF-8 byte". -/
inductive Error where
  | invalidUtf8
  deriving DecidableEq

/-- `dump()` with the default error handler. The text it returns is kept as the value it encodes. -/
def dump (j : Json) : Except Error Json := if j.utf8 then .ok j else .error .invalidUtf8

theorem utf8Elements_iff (elements : List Json) :
    utf8Elements elements = true ↔ ∀ j ∈ elements, j.utf8 = true := by
  induction elements with
  | nil => simp [utf8Elements]
  | cons j rest ih => simp [utf8Elements, ih]

theorem utf8Members_append (xs ys : List (Text × Json)) :
    utf8Members (xs ++ ys) = (utf8Members xs && utf8Members ys) := by
  induction xs with
  | nil => simp [utf8Members]
  | cons m rest ih => simp [utf8Members, ih, Bool.and_assoc]

end Json

end CentralSquawk
