/-
  What `printf` makes of a float: `%.<digits>f`.

  A `FloatValue` is the number that a float stands for, or the infinity or the NaN that it is.  A
  finite one is rounded to the nearest number with so many decimals, ties to the even one, and is
  printed with a digit at least in front of the point: `FloatValue.text`.

  What an array needs to have room for it is a bound on the VALUE: `length_natText_rounded`.  The
  digits in front of the point are as many as the rounded number needs (`length_natText_le_iff`),
  and rounding reaches a power of ten from half a unit of the last decimal below it on
  (`roundHalfEven_lt_iff`).

  The crux is `roundHalfEven_lt_iff`.  Rounding half to even is not monotone in an obvious way at a
  tie, but against an EVEN bound it behaves like rounding half up: the tie just below an even number
  goes to that number.  The bounds that matter here are powers of ten, which are even as soon as
  they are not 1.
-/

import Mathlib.Algebra.Order.Floor.Semiring
import Mathlib.Data.Rat.Floor
import Mathlib.Tactic.Linarith
import GatewayLoRa.Lib.ReadBack

namespace Stdio

open CMemory

/-! ## Digits -/

/-- **A number has at most `k` digits** when it is less than `10 ^ k`. -/
theorem length_natText_le_iff {k n : Nat} (hk : 0 < k) : (natText n).length ≤ k ↔ n < 10 ^ k := by
  refine ⟨fun h => ?_, length_natText_le hk⟩
  calc n = decimal (natText n) := (decimal_natText n).symm
    _ < 10 ^ (natText n).length := decimal_lt (natText_digits n)
    _ ≤ 10 ^ k := Nat.pow_le_pow_right (by decide) h

/-- A sign, if there is one, and the digits. -/
theorem length_intText (i : Int) :
    (intText i).length = (if i < 0 then 1 else 0) + (natText i.natAbs).length := by
  rw [intText]
  split
  · rw [List.length_cons, Nat.add_comm]
  · rw [Nat.zero_add]

/-- The last `k` digits of a number, the leading zeros included. -/
def lastDigits : Nat → Nat → Bytes
  | 0, _ => []
  | k + 1, n => lastDigits k (n / 10) ++ [UInt8.ofNat (48 + n % 10)]

@[simp] theorem length_lastDigits (k n : Nat) : (lastDigits k n).length = k := by
  induction k generalizing n with
  | zero => rfl
  | succ k ih => rw [lastDigits, List.length_append, ih, List.length_singleton]

/-- The decimals of an integer are zeros. -/
theorem lastDigits_mul (k n : Nat) : lastDigits k (n * 10 ^ k) = List.replicate k 48 := by
  induction k with
  | zero => rfl
  | succ k ih =>
    have hdiv : n * 10 ^ (k + 1) / 10 = n * 10 ^ k := by
      rw [Nat.pow_succ, ← Nat.mul_assoc, Nat.mul_div_cancel _ (by decide)]
    have hmod : n * 10 ^ (k + 1) % 10 = 0 := by
      rw [Nat.pow_succ, ← Nat.mul_assoc, Nat.mul_mod_left]
    rw [lastDigits, hdiv, hmod, ih, List.replicate_succ']
    rfl

/-! ## Rounding -/

/-- The nearest integer, the even one of two. -/
def roundHalfEven (q : ℚ≥0) : Nat :=
  let n := ⌊(q : ℚ)⌋₊
  if (q : ℚ) < n + 1 / 2 then n
  else if (n : ℚ) + 1 / 2 < q then n + 1
  else if n % 2 = 0 then n else n + 1

/-- An integer is not rounded. -/
theorem roundHalfEven_natCast (n : Nat) : roundHalfEven n = n := by
  unfold roundHalfEven
  have hfloor : ⌊(((n : ℚ≥0)) : ℚ)⌋₊ = n := by
    rw [NNRat.cast_natCast]
    exact Nat.floor_natCast n
  simp [hfloor]

/-- **Rounding stays below an even number** up to half a unit before it. -/
theorem roundHalfEven_lt_iff {q : ℚ≥0} {N : Nat} (hN : N % 2 = 0) :
    roundHalfEven q < N ↔ (q : ℚ) + 1 / 2 < N := by
  have hle : ((⌊(q : ℚ)⌋₊ : Nat) : ℚ) ≤ q := Nat.floor_le q.coe_nonneg
  have hlt : (q : ℚ) < (⌊(q : ℚ)⌋₊ : Nat) + 1 := Nat.lt_floor_add_one _
  unfold roundHalfEven
  generalize ⌊(q : ℚ)⌋₊ = n at hle hlt ⊢
  have hcast {m : Nat} : m < N ↔ (m : ℚ) + 1 ≤ N := by
    rw [Nat.lt_iff_add_one_le]
    exact_mod_cast Iff.rfl
  dsimp only
  -- down, up, or a tie, which goes to the even neighbour: the one right below `N` goes to `N`
  split
  · constructor
    · intro h
      have := hcast.mp h
      linarith
    · intro h
      have : (n : ℚ) < N := by linarith
      exact_mod_cast this
  · split
    · constructor
      · intro h
        have := hcast.mp h
        push_cast at this
        linarith
      · intro h
        have : ((n + 1 : Nat) : ℚ) < N := by
          push_cast
          linarith
        exact_mod_cast this
    · -- a tie: the number is half a unit above `n`
      have htie : (q : ℚ) = n + 1 / 2 := by linarith
      have hbelow : (q : ℚ) + 1 / 2 < N ↔ n + 1 < N := by
        rw [htie]
        constructor
        · intro h
          have : ((n + 1 : Nat) : ℚ) < N := by
            push_cast
            linarith
          exact_mod_cast this
        · intro h
          have : ((n + 1 : Nat) : ℚ) < N := by exact_mod_cast h
          push_cast at this
          linarith
      rw [hbelow]
      split <;> omega

/-! ## Floats -/

/-- What a float stands for. -/
inductive FloatValue
  | finite (negative : Bool) (magnitude : ℚ≥0)
  | infinite (negative : Bool)
  | nan (negative : Bool)

/-- The sign of a float: nothing for a positive one. -/
def signText (negative : Bool) : Bytes := if negative then [45] else []

/-- A number of `digits` decimals, given in units of the last one. -/
def fixedText (digits n : Nat) : Bytes :=
  natText (n / 10 ^ digits) ++ if digits = 0 then [] else 46 :: lastDigits digits n

/-- `%.<digits>f`. -/
def FloatValue.text (digits : Nat) : FloatValue → Bytes
  | finite negative magnitude =>
      signText negative ++ fixedText digits (roundHalfEven (magnitude * 10 ^ digits))
  | infinite negative => signText negative ++ ascii "inf"
  | nan negative => signText negative ++ ascii "nan"

/-- It takes one character for a negative float. -/
theorem length_signText (negative : Bool) :
    (signText negative).length = if negative then 1 else 0 := by
  cases negative <;> rfl

/-- A number with decimals: the digits in front of the point, the point, and the decimals. -/
theorem length_fixedText {digits : Nat} (hdigits : 0 < digits) (n : Nat) :
    (fixedText digits n).length = (natText (n / 10 ^ digits)).length + (digits + 1) := by
  rw [fixedText, if_neg (Nat.ne_of_gt hdigits), List.length_append, List.length_cons,
    length_lastDigits]

/-- **The digits in front of the point**: at most `k` of them if and only if the value stays half a
    unit of the last decimal below `10 ^ k`. -/
theorem length_natText_rounded {digits k : Nat} (hk : 0 < k) (m : ℚ≥0) :
    (natText (roundHalfEven (m * 10 ^ digits) / 10 ^ digits)).length ≤ k ↔
      (m : ℚ) + 1 / (2 * 10 ^ digits) < 10 ^ k := by
  have hpos : (0 : ℚ) < 10 ^ digits := by positivity
  -- the bound is even, so the tie below it rounds up to it
  have heven : 10 ^ (k + digits) % 2 = 0 := by
    rw [show k + digits = (k + digits - 1) + 1 by omega, Nat.pow_succ]
    omega
  rw [length_natText_le_iff hk, Nat.div_lt_iff_lt_mul (Nat.pow_pos (by decide)), ← Nat.pow_add,
    roundHalfEven_lt_iff heven]
  push_cast
  rw [pow_add, ← mul_lt_mul_iff_left₀ hpos (b := (m : ℚ) + _)]
  field_simp

/-- An integer is printed with zeros behind the point. -/
theorem text_natCast {digits : Nat} (hdigits : 0 < digits) (negative : Bool) (n : Nat) :
    (FloatValue.finite negative n).text digits =
      signText negative ++ (natText n ++ 46 :: List.replicate digits 48) := by
  have hround : roundHalfEven ((n : ℚ≥0) * 10 ^ digits) = n * 10 ^ digits := by
    rw [← roundHalfEven_natCast (n * 10 ^ digits)]
    push_cast
    rfl
  rw [FloatValue.text, hround, fixedText, if_neg (Nat.ne_of_gt hdigits), lastDigits_mul,
    Nat.mul_div_cancel _ (Nat.pow_pos (by decide))]

end Stdio
