import Mathlib.Data.Int.Log

/-!
# Doubles from integers

A double is carried as its 64-bit IEEE 754 pattern.  The quotient of two
positive integers is rounded to the nearest double, and to the one with an even
significand when two are equally near.
-/

namespace RtmpCore.Core

/-- The integer nearest to `a / b`, the even one of two. -/
def roundHalfEven (a b : ℕ) : ℕ :=
  let quotient := a / b
  let remainder := a % b
  if b < 2 * remainder ∨ (2 * remainder = b ∧ quotient % 2 = 1) then quotient + 1
  else quotient

/-- The exponent of the leading bit of `num / den`. -/
def leadingExponent (num den : ℕ) : ℤ :=
  let estimate : ℤ := (num.log2 : ℤ) - (den.log2 : ℤ)
  if den * 2 ^ estimate.toNat ≤ num * 2 ^ (-estimate).toNat then estimate
  else estimate - 1

/-- The pattern of the double nearest to `num / den`.  The significand has 53
bits, of which the first is implicit; a significand that is rounded up to 54
bits carries into the exponent. -/
def doubleOfRatio (num den : ℕ) : UInt64 :=
  if num = 0 then 0
  else
    let exponent := leadingExponent num den
    let significand :=
      roundHalfEven (num * 2 ^ (52 - exponent).toNat) (den * 2 ^ (exponent - 52).toNat)
    .ofNat ((exponent + 1023).toNat * 2 ^ 52 + (significand - 2 ^ 52))

example : doubleOfRatio 1500 1000 = 0x3FF8000000000000 := by decide
example : doubleOfRatio 33 1000 = 0x3FA0E5604189374C := by decide

end RtmpCore.Core
