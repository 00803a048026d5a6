import Mathlib.Tactic.Ring
import Mathlib.Tactic.Linarith
import Mathlib.Algebra.Order.Ring.Int

/-!
# Non-restoring division

The integer theory of a divider that never undoes a subtraction: every cycle
doubles the partial remainder and subtracts the shifted divisor when the
remainder is not negative, or adds it back when it is.  The quotient digits are
therefore plus or minus one, and the bits that are shifted in encode them.
-/

namespace Foundation
namespace NonRestoring

/-- The partial remainder and the digits collected so far. -/
structure Partial where
  rem : Int
  quo : Nat
  deriving DecidableEq, Repr

def step (D : Int) (p : Partial) : Partial :=
  if 0 ≤ p.rem then
    { rem := 2 * p.rem - D, quo := 2 * p.quo + 1 }
  else
    { rem := 2 * p.rem + D, quo := 2 * p.quo }

theorem step_of_nonneg {D : Int} {p : Partial} (h : 0 ≤ p.rem) :
    step D p = { rem := 2 * p.rem - D, quo := 2 * p.quo + 1 } :=
  if_pos h

theorem step_of_neg {D : Int} {p : Partial} (h : p.rem < 0) :
    step D p = { rem := 2 * p.rem + D, quo := 2 * p.quo } :=
  if_neg (not_le.mpr h)

/-- The state after `n` cycles that started from the dividend. -/
def iterate (D P : Int) : Nat -> Partial
  | 0 => { rem := P, quo := 0 }
  | n + 1 => step D (iterate D P n)

@[simp] theorem iterate_zero (D P : Int) :
    iterate D P 0 = { rem := P, quo := 0 } := rfl

theorem iterate_succ (D P : Int) (n : Nat) :
    iterate D P (n + 1) = step D (iterate D P n) := rfl

theorem iterate_quo_lt (D P : Int) (n : Nat) :
    (iterate D P n).quo < 2 ^ n := by
  induction n with
  | zero =>
      simp
  | succ n ih =>
      rw [iterate_succ, step, pow_succ]
      split
      · show 2 * (iterate D P n).quo + 1 < _
        omega
      · show 2 * (iterate D P n).quo < _
        omega

/--
The remainder and the digits always account for the whole dividend: the digit
sum is `2 * quo - (2 ^ n - 1)`.
-/
theorem iterate_balance (D P : Int) (n : Nat) :
    (iterate D P n).rem =
      2 ^ n * P - D * (2 * ((iterate D P n).quo : Int) - (2 ^ n - 1)) := by
  induction n with
  | zero =>
      simp
  | succ n ih =>
      rw [iterate_succ, step]
      split
      · show 2 * (iterate D P n).rem - D = _
        rw [ih]
        push_cast
        ring
      · show 2 * (iterate D P n).rem + D = _
        rw [ih]
        push_cast
        ring

/-- A dividend below the shifted divisor keeps the remainder in range. -/
theorem iterate_rem_bounds {D P : Int} (hP : 0 ≤ P) (hPD : P < D) (n : Nat) :
    -D ≤ (iterate D P n).rem ∧ (iterate D P n).rem < D := by
  induction n with
  | zero =>
      constructor
      · show -D ≤ P
        omega
      · exact hPD
  | succ n ih =>
      rw [iterate_succ, step]
      split
      · constructor
        · show -D ≤ 2 * (iterate D P n).rem - D
          omega
        · show 2 * (iterate D P n).rem - D < D
          omega
      · constructor
        · show -D ≤ 2 * (iterate D P n).rem + D
          omega
        · show 2 * (iterate D P n).rem + D < D
          omega

/-- A dividend that is too large is never corrected: every digit is one. -/
theorem iterate_saturates {D P : Int} (hD : 0 ≤ D) (hPD : D ≤ P) (n : Nat) :
    D ≤ (iterate D P n).rem ∧ (iterate D P n).rem ≤ 2 ^ n * P ∧
      (iterate D P n).quo = 2 ^ n - 1 := by
  induction n with
  | zero =>
      refine ⟨hPD, ?_, rfl⟩
      simp
  | succ n ih =>
      rcases ih with ⟨hlow, hhigh, hquo⟩
      have hnonneg : 0 ≤ (iterate D P n).rem := le_trans hD hlow
      have hpos : 0 < 2 ^ n := Nat.two_pow_pos n
      rw [iterate_succ, step, if_pos hnonneg]
      refine ⟨?_, ?_, ?_⟩
      · show D ≤ 2 * (iterate D P n).rem - D
        omega
      · show 2 * (iterate D P n).rem - D ≤ 2 ^ (n + 1) * P
        rw [pow_succ, mul_comm ((2 : Int) ^ n) 2, mul_assoc]
        omega
      · show 2 * (iterate D P n).quo + 1 = 2 ^ (n + 1) - 1
        rw [hquo, pow_succ]
        omega

/-- The magnitude never outgrows the dividend and divisor shifted by the width. -/
theorem iterate_rem_le {D P : Int} (hD : 0 ≤ D) (hP : 0 ≤ P) (n : Nat) :
    -D ≤ (iterate D P n).rem ∧
      (iterate D P n).rem ≤ max D (2 ^ n * P) := by
  by_cases hPD : P < D
  · have hb := iterate_rem_bounds hP hPD n
    exact ⟨hb.left, le_max_of_le_left (le_of_lt hb.right)⟩
  · have hs := iterate_saturates hD (not_lt.mp hPD) n
    refine ⟨?_, le_max_of_le_right hs.right.left⟩
    have := hs.left
    omega

/-!
## The restoring step

After all digits are in, one conditional addition makes the remainder the
Euclidean one and decrements the quotient.
-/

/-- The quotient and remainder after the final correction, unscaled. -/
def restored (d : Int) (n : Nat) (p : Partial) : Int × Int :=
  if p.rem < 0 then
    (2 * (p.quo : Int) - (2 ^ n - 1) - 1, p.rem / 2 ^ n + d)
  else
    (2 * (p.quo : Int) - (2 ^ n - 1), p.rem / 2 ^ n)

theorem iterate_rem_div {d P : Int} (n : Nat) :
    (iterate (d * 2 ^ n) P n).rem / 2 ^ n =
      P - d * (2 * ((iterate (d * 2 ^ n) P n).quo : Int) - (2 ^ n - 1)) ∧
    (iterate (d * 2 ^ n) P n).rem =
      2 ^ n * ((iterate (d * 2 ^ n) P n).rem / 2 ^ n) := by
  have hbal := iterate_balance (d * 2 ^ n) P n
  have hfac : (iterate (d * 2 ^ n) P n).rem =
      2 ^ n * (P - d * (2 * ((iterate (d * 2 ^ n) P n).quo : Int) -
        (2 ^ n - 1))) := by
    rw [hbal]
    ring
  have hne : (2 : Int) ^ n ≠ 0 := by positivity
  have hdiv : (iterate (d * 2 ^ n) P n).rem / 2 ^ n =
      P - d * (2 * ((iterate (d * 2 ^ n) P n).quo : Int) - (2 ^ n - 1)) := by
    rw [hfac]
    exact Int.mul_ediv_cancel_left _ hne
  exact ⟨hdiv, by rw [hdiv]; exact hfac⟩

/-- The corrected pair is the Euclidean quotient and remainder. -/
theorem restored_eq_div_mod {d P : Int} {n : Nat} (hP : 0 ≤ P)
    (hPd : P < d * 2 ^ n) :
    restored d n (iterate (d * 2 ^ n) P n) = (P / d, P % d) := by
  have hb := iterate_rem_bounds hP hPd n
  rcases iterate_rem_div (d := d) (P := P) n with ⟨hdiv, hscale⟩
  have hpow : (0 : Int) < 2 ^ n := by positivity
  have hd : 0 < d := by
    by_contra hneg
    have : d * 2 ^ n ≤ 0 := mul_nonpos_of_nonpos_of_nonneg (not_lt.mp hneg) (le_of_lt hpow)
    omega
  set p := iterate (d * 2 ^ n) P n with hp
  set q : Int := 2 * (p.quo : Int) - (2 ^ n - 1) with hq
  set r := p.rem / 2 ^ n with hr
  have hlow : -d ≤ r := by
    rw [hr]
    apply Int.le_ediv_of_mul_le hpow
    linarith [hb.left]
  have hhigh : r < d := by
    rw [hr]
    exact Int.ediv_lt_of_lt_mul hpow hb.right
  have hbalance : P = d * q + r := by
    rw [hdiv]
    ring
  rw [restored]
  split
  · next hneg =>
      have hrneg : r < 0 := by
        rw [hr]
        exact Int.ediv_neg_of_neg_of_pos hneg hpow
      have hunique := (Int.ediv_emod_unique (a := P) (r := r + d) (q := q - 1) hd).mpr
        ⟨by rw [hbalance]; ring, by omega, by omega⟩
      rw [hunique.left, hunique.right]
  · next hnn =>
      have hrnn : 0 ≤ r := by
        rw [hr]
        exact Int.ediv_nonneg (not_lt.mp hnn) (le_of_lt hpow)
      have hunique := (Int.ediv_emod_unique (a := P) (r := r) (q := q) hd).mpr
        ⟨by rw [hbalance]; ring, hrnn, hhigh⟩
      rw [hunique.left, hunique.right]

/-!
## Truncated division from magnitudes
-/

theorem tdiv_eq_natAbs (x y : Int) :
    x.tdiv y =
      if (x < 0 ↔ y < 0) then ((x.natAbs / y.natAbs : Nat) : Int)
      else -((x.natAbs / y.natAbs : Nat) : Int) := by
  rcases Int.natAbs_eq x with hx | hx <;> rcases Int.natAbs_eq y with hy | hy
  · have : (x < 0 ↔ y < 0) := by omega
    rw [if_pos this]
    nth_rewrite 1 [hx, hy]
    exact Int.ofNat_tdiv _ _
  · by_cases h0 : y = 0
    · subst h0
      simp
    · have hdiv : x.tdiv y = -((x.natAbs / y.natAbs : Nat) : Int) := by
        nth_rewrite 1 [hx, hy]
        rw [Int.tdiv_neg]
        exact congrArg Neg.neg (Int.ofNat_tdiv _ _)
      have : ¬ (x < 0 ↔ y < 0) := by omega
      rw [if_neg this, hdiv]
  · by_cases h0 : x = 0
    · subst h0
      simp
    · have hdiv : x.tdiv y = -((x.natAbs / y.natAbs : Nat) : Int) := by
        nth_rewrite 1 [hx, hy]
        rw [Int.neg_tdiv]
        exact congrArg Neg.neg (Int.ofNat_tdiv _ _)
      have : ¬ (x < 0 ↔ y < 0) := by omega
      rw [if_neg this, hdiv]
  · by_cases hx0 : x = 0
    · subst hx0
      simp
    · by_cases hy0 : y = 0
      · subst hy0
        simp
      · have : (x < 0 ↔ y < 0) := by omega
        rw [if_pos this]
        nth_rewrite 1 [hx, hy]
        rw [Int.neg_tdiv_neg]
        exact Int.ofNat_tdiv _ _

theorem tmod_eq_natAbs (x y : Int) :
    x.tmod y =
      if x < 0 then -((x.natAbs % y.natAbs : Nat) : Int)
      else ((x.natAbs % y.natAbs : Nat) : Int) := by
  have hpos : forall m : Nat, (m : Int).tmod y = ((m % y.natAbs : Nat) : Int) := by
    intro m
    rcases Int.natAbs_eq y with hy | hy
    · nth_rewrite 1 [hy]
      exact Int.ofNat_tmod _ _
    · nth_rewrite 1 [hy]
      rw [Int.tmod_neg]
      exact Int.ofNat_tmod _ _
  by_cases hneg : x < 0
  · have hx : x = -(x.natAbs : Int) := by omega
    rw [if_pos hneg]
    nth_rewrite 1 [hx]
    rw [Int.neg_tmod, hpos]
  · have hx : x = (x.natAbs : Int) := by omega
    rw [if_neg hneg]
    nth_rewrite 1 [hx]
    exact hpos _

end NonRestoring
end Foundation
