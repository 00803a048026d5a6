import S80x86.Foundation.Carry
import Mathlib.Tactic.Ring

/-!
# What carries mean

The carry out of a sum with a carry, and the borrow of a difference with a
borrow, as comparisons of numbers; the difference of the last two carries as
the overflow of the signed operation.
-/

namespace Foundation
namespace Carry

/-- The exact value of a sum with a carry or a difference with a borrow. -/
def value (neg : Bool) (x y : Int) (c : Bool) : Int :=
  if neg then x - y - c.toNat else x + y + c.toNat

/-- The carry out of a sum, or the borrow of a difference. -/
def carryOut (neg : Bool) {w : Nat} (x y : BitVec w) (c : Bool) : Bool :=
  Bool.xor neg (carryInto neg w x y c)

/-- Whether a value does not fit into `w + 1` bits of two's complement. -/
def overflows (w : Nat) (v : Int) : Bool :=
  decide (v < -((2 ^ w : Nat) : Int) ∨ ((2 ^ w : Nat) : Int) ≤ v)

/-!
## Carries as comparisons
-/

theorem carryInto_false {w i : Nat} (x y : BitVec w) (c : Bool) :
    carryInto false i x y c =
      decide (2 ^ i ≤ x.toNat % 2 ^ i + y.toNat % 2 ^ i + c.toNat) := by
  simp [carryInto, BitVec.carry]

theorem not_mod_two_pow {w i : Nat} (hi : i ≤ w) (y : BitVec w) :
    (~~~y).toNat % 2 ^ i = 2 ^ i - 1 - y.toNat % 2 ^ i := by
  have hpos := Nat.two_pow_pos i
  have hmod := Nat.mod_lt y.toNat hpos
  obtain ⟨k, hk⟩ := Nat.pow_dvd_pow 2 hi
  have hdiv := Nat.div_add_mod y.toNat (2 ^ i)
  have hlt : y.toNat / 2 ^ i < k := by
    apply Nat.div_lt_of_lt_mul
    rw [← hk]
    exact y.isLt
  have hsplit : 2 ^ i * k =
      2 ^ i * (k - 1 - y.toNat / 2 ^ i) + 2 ^ i * (y.toNat / 2 ^ i) +
        2 ^ i := by
    rw [← Nat.mul_add, ← Nat.mul_succ]
    congr 1
    omega
  have heq : 2 ^ w - 1 - y.toNat =
      (2 ^ i - 1 - y.toNat % 2 ^ i) +
        2 ^ i * (k - 1 - y.toNat / 2 ^ i) := by
    omega
  rw [BitVec.toNat_not, heq, Nat.add_mul_mod_self_left]
  exact Nat.mod_eq_of_lt (by omega)

theorem carryInto_true {w i : Nat} (hi : i ≤ w) (x y : BitVec w) (c : Bool) :
    carryInto true i x y c =
      decide (y.toNat % 2 ^ i + c.toNat ≤ x.toNat % 2 ^ i) := by
  have hmod := Nat.mod_lt y.toNat (Nat.two_pow_pos i)
  simp only [carryInto, BitVec.carry, if_true, not_mod_two_pow hi,
    Bool.xor_true]
  apply decide_eq_decide.mpr
  cases c <;> simp <;> omega

theorem carryOut_false {w : Nat} (x y : BitVec w) (c : Bool) :
    carryOut false x y c = decide (2 ^ w ≤ x.toNat + y.toNat + c.toNat) := by
  unfold carryOut
  rw [carryInto_false, Nat.mod_eq_of_lt x.isLt, Nat.mod_eq_of_lt y.isLt,
    Bool.false_xor]

theorem carryOut_true {w : Nat} (x y : BitVec w) (c : Bool) :
    carryOut true x y c = decide (x.toNat < y.toNat + c.toNat) := by
  unfold carryOut
  rw [carryInto_true (Nat.le_refl w), Nat.mod_eq_of_lt x.isLt,
    Nat.mod_eq_of_lt y.isLt, Bool.true_xor, ← decide_not]
  exact decide_eq_decide.mpr Nat.not_le

/-!
## Results
-/

theorem toNat_ofBool_setWidth (w : Nat) (c : Bool) :
    ((BitVec.ofBool c).setWidth w).toNat = c.toNat % 2 ^ w := by
  simp [BitVec.toNat_setWidth]

theorem toNat_sum {w : Nat} (x y : BitVec w) (c : Bool) :
    x.toNat + y.toNat + c.toNat =
      (addSub false x y c).toNat + 2 ^ w * (carryOut false x y c).toNat := by
  have hx := x.isLt
  have hy := y.isLt
  have hc := Bool.toNat_le c
  rw [carryOut_false]
  simp only [addSub, Bool.false_eq_true, if_false, BitVec.toNat_add,
    toNat_ofBool_setWidth, Nat.add_mod_mod, Nat.mod_add_mod]
  by_cases h : 2 ^ w ≤ x.toNat + y.toNat + c.toNat
  · rw [Nat.mod_eq_sub_mod h, Nat.mod_eq_of_lt (by omega)]
    simp [h]
  · rw [Nat.mod_eq_of_lt (by omega)]
    simp [h]

theorem toNat_difference {w : Nat} (x y : BitVec w) (c : Bool) :
    x.toNat + 2 ^ w * (carryOut true x y c).toNat =
      (addSub true x y c).toNat + y.toNat + c.toNat := by
  have hback : addSub false (addSub true x y c) y c = x := by
    simp only [addSub, if_true, Bool.false_eq_true, if_false]
    rw [BitVec.add_assoc, BitVec.sub_sub, BitVec.sub_add_cancel]
  have hsum := toNat_sum (addSub true x y c) y c
  have hr := (addSub true x y c).isLt
  rw [hback] at hsum
  rw [carryOut_true]
  by_cases h : x.toNat < y.toNat + c.toNat
  · cases hk : carryOut false (addSub true x y c) y c with
    | false =>
        simp only [hk, Bool.toNat_false] at hsum
        omega
    | true =>
        simp only [hk, Bool.toNat_true] at hsum
        simp only [h, decide_true, Bool.toNat_true]
        omega
  · cases hk : carryOut false (addSub true x y c) y c with
    | false =>
        simp only [hk, Bool.toNat_false] at hsum
        simp only [h, decide_false, Bool.toNat_false]
        omega
    | true =>
        simp only [hk, Bool.toNat_true] at hsum
        omega

/-- The weight of the carry in the exact value. -/
def sign (neg : Bool) : Int := if neg then -1 else 1

theorem value_eq {w : Nat} (neg : Bool) (x y : BitVec w) (c : Bool) :
    value neg x.toNat y.toNat c =
      (addSub neg x y c).toNat +
        sign neg * ((2 ^ w : Nat) * (carryOut neg x y c).toNat) := by
  cases neg with
  | false =>
      have h := toNat_sum x y c
      simp only [value, sign, Bool.false_eq_true, if_false, Int.one_mul]
      exact_mod_cast h
  | true =>
      have h := toNat_difference x y c
      simp only [value, sign, if_true]
      have hcast : (x.toNat : Int) +
          ((2 ^ w : Nat) : Int) * (carryOut true x y c).toNat =
            (addSub true x y c).toNat + y.toNat + c.toNat := by
        exact_mod_cast h
      omega

/-!
## Signed operations
-/

theorem toNat_eq_msb {w : Nat} (x : BitVec (w + 1)) :
    x.toNat = x.toNat % 2 ^ w + 2 ^ w * x.msb.toNat := by
  have hx := x.isLt
  have hpow : 2 ^ (w + 1) = 2 * 2 ^ w := by
    rw [pow_succ]
    ring
  rw [BitVec.msb_eq_decide, Nat.add_sub_cancel]
  by_cases h : 2 ^ w ≤ x.toNat
  · rw [Nat.mod_eq_sub_mod h, Nat.mod_eq_of_lt (by omega)]
    simp [h]
  · rw [Nat.mod_eq_of_lt (by omega)]
    simp [h]

theorem toInt_eq_msb {w : Nat} (x : BitVec (w + 1)) :
    x.toInt = (x.toNat % 2 ^ w : Nat) - ((2 ^ w * x.msb.toNat : Nat) : Int) := by
  have hsplit := toNat_eq_msb x
  have hpow : 2 ^ (w + 1) = 2 * 2 ^ w := by
    rw [pow_succ]
    ring
  rw [BitVec.toInt_eq_msb_cond]
  cases hm : x.msb with
  | false =>
      simp only [hm, Bool.toNat_false] at hsplit ⊢
      simp only [Bool.false_eq_true, if_false]
      omega
  | true =>
      simp only [hm, Bool.toNat_true] at hsplit ⊢
      simp only [if_true]
      omega

/-- The last two carries differ when the signed value does not fit. -/
theorem overflow_eq {w : Nat} (neg : Bool) (x y : BitVec (w + 1)) (c : Bool) :
    Bool.xor (carryInto neg w x y c) (carryInto neg (w + 1) x y c) =
      overflows w (value neg x.toInt y.toInt c) := by
  have hx := toNat_eq_msb x
  have hy := toNat_eq_msb y
  have hx' := Nat.mod_lt x.toNat (Nat.two_pow_pos w)
  have hy' := Nat.mod_lt y.toNat (Nat.two_pow_pos w)
  have hc := Bool.toNat_le c
  have hpow : 2 ^ (w + 1) = 2 * 2 ^ w := by
    rw [pow_succ]
    ring
  have hlast : Bool.xor neg (carryInto neg (w + 1) x y c) =
      carryOut neg x y c := rfl
  have hxor : forall n a b : Bool,
      Bool.xor a b = Bool.xor (Bool.xor n a) (Bool.xor n b) := by
    decide
  have hne : forall p q : Prop, [Decidable p] -> [Decidable q] ->
      (Bool.xor (decide p) (decide q) = true ↔ ¬(p ↔ q)) := by
    intro p q _ _
    by_cases hp : p <;> by_cases hq : q <;> simp [hp, hq]
  rw [hxor neg, hlast, toInt_eq_msb, toInt_eq_msb]
  cases neg with
  | false =>
      rw [carryInto_false, carryOut_false, hpow, Bool.false_xor]
      unfold overflows value
      generalize 2 ^ w = p at *
      generalize x.toNat % p = a at *
      generalize y.toNat % p = b at *
      rw [hx, hy, Bool.eq_iff_iff, hne, decide_eq_true_iff]
      cases x.msb <;> cases y.msb <;> simp <;> omega
  | true =>
      rw [carryInto_true (Nat.le_succ w), carryOut_true, Bool.true_xor,
        ← decide_not]
      unfold overflows value
      generalize 2 ^ w = p at *
      generalize x.toNat % p = a at *
      generalize y.toNat % p = b at *
      rw [hx, hy, Bool.eq_iff_iff, hne, decide_eq_true_iff]
      cases x.msb <;> cases y.msb <;> simp <;> omega

end Carry
end Foundation
