import Mathlib.Data.UInt
import Mathlib.Tactic.Common

/-!
# Strings

`src/core/Helpers.h`. A `std::string` is its bytes: what EuroScope returns is
never re-encoded on the way to the server.
-/

namespace CentralSquawk

abbrev Text := List UInt8

def text (literal : String) : Text := literal.toList.map (fun c => c.toNat.toUInt8)

/-- `::toupper` in the C locale. -/
def toupper (c : UInt8) : UInt8 := if 0x61 ≤ c ∧ c ≤ 0x7A then c - 0x20 else c

def toUpper (str : Text) : Text := str.map toupper

/-- `none` is the null pointer an SDK getter returns for a field never filed. -/
def safeString (str : Option Text) : Text := str.getD []

def isWellFormedSquawk (code : Text) : Bool :=
  code.length == 4 && code.all (fun c => decide (0x30 ≤ c ∧ c ≤ 0x37))

/-- A C string the plugin can use: neither null nor empty. -/
def nonEmpty (str : Option Text) : Option Text := str.filter (fun s => !s.isEmpty)

theorem toNat_sub_case {c : UInt8} (lower : 0x61 ≤ c ∧ c ≤ 0x7A) : (c - 0x20).toNat = c.toNat - 0x20 := by
  apply UInt8.toNat_sub_of_le
  have low : (0x61 : UInt8) ≤ c := lower.1
  simp only [UInt8.le_iff_toNat_le] at low ⊢
  exact Nat.le_trans (by decide) low

theorem toupper_toupper (c : UInt8) : toupper (toupper c) = toupper c := by
  by_cases lower : 0x61 ≤ c ∧ c ≤ 0x7A
  · have upper : ¬ (0x61 ≤ c - 0x20 ∧ c - 0x20 ≤ 0x7A) := by
      have moved := toNat_sub_case lower
      simp only [UInt8.le_iff_toNat_le, moved] at lower ⊢
      simp at lower ⊢
      omega
    simp only [toupper, if_pos lower, if_neg upper]
  · simp only [toupper, if_neg lower]

@[simp] theorem toUpper_toUpper (str : Text) : toUpper (toUpper str) = toUpper str := by
  simp [toUpper, toupper_toupper]

@[simp] theorem toUpper_eq_nil {str : Text} : toUpper str = [] ↔ str = [] := by
  simp [toUpper]

/-- What `IsWellFormedSquawk` is there to say. -/
def FourOctalDigits (code : Text) : Prop := code.length = 4 ∧ ∀ c ∈ code, 0x30 ≤ c ∧ c ≤ 0x37

theorem isWellFormedSquawk_iff {code : Text} : isWellFormedSquawk code = true ↔ FourOctalDigits code := by
  simp [isWellFormedSquawk, FourOctalDigits]

theorem nonEmpty_ne_nil {str : Option Text} {s : Text} (h : nonEmpty str = some s) : s ≠ [] := by
  simp only [nonEmpty, Option.filter_eq_some_iff] at h
  simpa using h.2

end CentralSquawk
