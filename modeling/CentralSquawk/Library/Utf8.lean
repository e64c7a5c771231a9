import Mathlib.Data.UInt
import Mathlib.Tactic.Common

/-!
# Well-formed UTF-8

The octet automaton of a UTF-8 reader, which ASCII never upsets.
-/

namespace Library.Utf8

/-- Between characters, or how the next octet is bounded and how many tails follow it. -/
inductive Reader where
  | start
  | tail (low high : UInt8) (more : Nat)
  deriving DecidableEq

def first (b : UInt8) : Option Reader :=
  if b ≤ 0x7F then some .start
  else if 0xC2 ≤ b ∧ b ≤ 0xDF then some (.tail 0x80 0xBF 0)
  else if b = 0xE0 then some (.tail 0xA0 0xBF 1)
  else if b = 0xED then some (.tail 0x80 0x9F 1)
  else if 0xE1 ≤ b ∧ b ≤ 0xEF then some (.tail 0x80 0xBF 1)
  else if b = 0xF0 then some (.tail 0x90 0xBF 2)
  else if 0xF1 ≤ b ∧ b ≤ 0xF3 then some (.tail 0x80 0xBF 2)
  else if b = 0xF4 then some (.tail 0x80 0x8F 2)
  else none

def step : Reader → UInt8 → Option Reader
  | .start, b => first b
  | .tail low high more, b =>
    if low ≤ b ∧ b ≤ high then
      match more with
      | 0 => some .start
      | n + 1 => some (.tail 0x80 0xBF n)
    else none

def read : Reader → List UInt8 → Option Reader
  | r, [] => some r
  | r, b :: rest => (step r b).bind (fun r' => read r' rest)

/-- The octets are whole UTF-8 characters. -/
def valid (octets : List UInt8) : Bool := read .start octets == some .start

theorem valid_ascii {octets : List UInt8} (ascii : ∀ b ∈ octets, b ≤ 0x7F) : valid octets = true := by
  simp only [valid, beq_iff_eq]
  induction octets with
  | nil => rfl
  | cons b rest ih =>
    have narrow : first b = some .start := if_pos (ascii b (by simp))
    simp only [read, step, narrow, Option.bind_some]
    exact ih (fun c member => ascii c (by simp [member]))

/-! ### Rewriting the ASCII -/

def Reader.beyond : Reader → Prop
  | .start => True
  | .tail low _ _ => 0x80 ≤ low

theorem first_beyond {b : UInt8} {r : Reader} (found : first b = some r) : r.beyond := by
  unfold first at found
  repeat' split at found
  all_goals first
    | contradiction
    | cases found
      simp [Reader.beyond]

theorem step_beyond {r r' : Reader} {b : UInt8} (beyond : r.beyond) (stepped : step r b = some r') : r'.beyond := by
  cases r with
  | start => exact first_beyond stepped
  | tail low high more =>
    simp only [step] at stepped
    split at stepped
    · cases more with
      | zero =>
        obtain rfl := Option.some.inj stepped
        trivial
      | succ n =>
        obtain rfl := Option.some.inj stepped
        exact UInt8.le_refl 0x80
    · contradiction

theorem step_ascii {r : Reader} {b c : UInt8} (beyond : r.beyond) (ascii : b ≤ 0x7F) (ascii' : c ≤ 0x7F) :
    step r b = step r c := by
  cases r with
  | start => simp [step, first, ascii, ascii']
  | tail low high more =>
    have past : ∀ d : UInt8, d ≤ 0x7F → ¬ low ≤ d := by
      intro d small above
      have bound : (0x80 : UInt8) ≤ low := beyond
      simp only [UInt8.le_iff_toNat_le] at small above bound
      simp at small bound
      omega
    simp [step, past b ascii, past c ascii']

/-- A rewriting of the ASCII octets into ASCII neither makes nor spoils a character. -/
theorem read_map {f : UInt8 → UInt8} (ascii : ∀ b, b ≤ 0x7F → f b ≤ 0x7F) (others : ∀ b, ¬ b ≤ 0x7F → f b = b)
    {r : Reader} (beyond : r.beyond) (octets : List UInt8) : read r (octets.map f) = read r octets := by
  induction octets generalizing r with
  | nil => rfl
  | cons b rest ih =>
    have same : step r (f b) = step r b := by
      by_cases small : b ≤ 0x7F
      · exact step_ascii beyond (ascii b small) small
      · rw [others b small]
    rw [List.map_cons, read, read, same]
    cases stepped : step r b with
    | none => rfl
    | some r' => exact ih (step_beyond beyond stepped)

theorem valid_map {f : UInt8 → UInt8} (ascii : ∀ b, b ≤ 0x7F → f b ≤ 0x7F) (others : ∀ b, ¬ b ≤ 0x7F → f b = b)
    (octets : List UInt8) : valid (octets.map f) = valid octets := by
  have start : Reader.start.beyond := trivial
  rw [valid, valid, read_map ascii others start]

/-- An octet that no character contains spoils any text. -/
example : valid [0x41, 0xE9, 0x42] = false := by decide

end Library.Utf8
