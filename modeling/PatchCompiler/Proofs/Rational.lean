import Mathlib.Algebra.Field.Rat
import Mathlib.Algebra.Order.Field.Rat
import Mathlib.Tactic.FieldSimp
import Mathlib.Tactic.Ring
import PatchCompiler.Value.Convert

/-!
# Numbers as rationals

A finite double stands for a rational number, and comparing it with an integer compares the two
numbers.
-/

namespace PatchCompiler

def Binary64.rational? : Binary64 → Option ℚ
  | .finite negative mantissa exponent => some (signed negative mantissa * 2 ^ exponent)
  | _ => none

def Value.rational? : Value → Option ℚ
  | .int n => some n
  | .real x => x.rational?
  | _ => none

/-- A value that stands for a number and is converted to a double without loss. -/
def Value.IsExact (value : Value) (number : ℚ) : Prop :=
  value.rational? = some number ∧ ∃ x, value.toDouble = .ok x ∧ x.rational? = some number

theorem Binary64.aligned_value {mantissa exponent floor : Int} (lt : floor ≤ exponent) :
    (aligned mantissa exponent floor * 2 ^ floor : ℚ) = mantissa * 2 ^ exponent := by
  have split : exponent = ((exponent - floor).toNat : Int) + floor := by omega
  have power : (2 : ℚ) ^ exponent = 2 ^ (exponent - floor).toNat * 2 ^ floor := by
    conv_lhs => rw [split]
    rw [zpow_add₀ two_ne_zero, zpow_natCast]
  rw [aligned, power, Nat.pow_eq]
  push_cast
  ring

theorem Binary64.aligned_eq_iff {mantissa exponent n : Int} :
    aligned mantissa exponent (min exponent 0) = aligned n 0 (min exponent 0) ↔
      (mantissa * 2 ^ exponent : ℚ) = n := by
  have whole : (n : ℚ) = n * 2 ^ (0 : Int) := by simp
  rw [whole, ← aligned_value (min_le_left exponent 0), ← aligned_value (min_le_right exponent 0),
    mul_left_inj' (zpow_ne_zero _ two_ne_zero), Int.cast_inj]

theorem Value.equals_int_iff {v : Value} {q : ℚ} (exact : v.rational? = some q)
    (n : Int) : v.equals (.int n) = true ↔ q = n := by
  cases v with
  | int m =>
    cases exact
    simp [equals, compareNumbers]
  | real x =>
    cases x with
    | finite negative mantissa exponent =>
      cases exact
      simp [equals, compareNumbers, Binary64.compareInt, Binary64.aligned_eq_iff]
    | infinite negative => cases exact
    | nan => cases exact
  | null => cases exact
  | bool b => cases exact
  | text s => cases exact
  | object ident => cases exact
  | list xs => cases exact
  | record fields => cases exact

end PatchCompiler
