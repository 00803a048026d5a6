import Mathlib.Tactic.Ring

/-!
# Carries

The bits of a sum or difference that is computed wider than its operands, or
on their low parts only, in terms of the carries of the operands themselves.
-/

namespace Foundation
namespace Carry

/-- A carry depends on the bits below it only. -/
theorem carry_congr {v w i : Nat} {x y : BitVec v} {x' y' : BitVec w}
    (c : Bool) (hx : x.toNat % 2 ^ i = x'.toNat % 2 ^ i)
    (hy : y.toNat % 2 ^ i = y'.toNat % 2 ^ i) :
    BitVec.carry i x y c = BitVec.carry i x' y' c := by
  unfold BitVec.carry
  rw [hx, hy]

/-- Equal bits below a position make equal remainders. -/
theorem mod_eq_of_getLsbD {v w i : Nat} {x : BitVec v} {y : BitVec w}
    (h : forall k, k < i -> x.getLsbD k = y.getLsbD k) :
    x.toNat % 2 ^ i = y.toNat % 2 ^ i := by
  apply Nat.eq_of_testBit_eq
  intro k
  rw [Nat.testBit_mod_two_pow, Nat.testBit_mod_two_pow]
  by_cases hk : k < i
  · have hbit := h k hk
    unfold BitVec.getLsbD at hbit
    rw [hbit]
  · simp [hk]

/-- Operands that agree below a position carry the same into it. -/
theorem carry_eq_of_getLsbD {v w i : Nat} {x y : BitVec v} {x' y' : BitVec w}
    (c : Bool) (hx : forall k, k < i -> x.getLsbD k = x'.getLsbD k)
    (hy : forall k, k < i -> y.getLsbD k = y'.getLsbD k) :
    BitVec.carry i x y c = BitVec.carry i x' y' c :=
  carry_congr c (mod_eq_of_getLsbD hx) (mod_eq_of_getLsbD hy)

/-- A difference with a borrow is a sum with the complement. -/
theorem sub_sub_bool {w : Nat} (x y : BitVec w) (c : Bool) :
    x - y - (BitVec.ofBool c).setWidth w =
      x + ~~~y + (BitVec.ofBool !c).setWidth w := by
  have hneg : x - y = x + ~~~y + 1#w := by
    rw [BitVec.sub_eq_add_neg, BitVec.neg_eq_not_add, BitVec.add_assoc]
  cases c with
  | false =>
      have hzero : (BitVec.ofBool false).setWidth w = 0#w := by simp
      have hone : (BitVec.ofBool !false).setWidth w = 1#w :=
        BitVec.eq_of_toNat_eq (by simp)
      rw [hzero, hone, BitVec.sub_zero, hneg]
  | true =>
      have hone : (BitVec.ofBool true).setWidth w = 1#w :=
        BitVec.eq_of_toNat_eq (by simp)
      have hzero : (BitVec.ofBool !true).setWidth w = 0#w := by simp
      rw [hzero, hone, BitVec.add_zero, hneg, BitVec.add_sub_cancel]

/-- A sum with a carry, or a difference with a borrow. -/
def addSub (neg : Bool) {w : Nat} (x y : BitVec w) (c : Bool) : BitVec w :=
  if neg then x - y - (BitVec.ofBool c).setWidth w
  else x + y + (BitVec.ofBool c).setWidth w

/-- The carry into a position, of the sum with the complement for a
difference. -/
def carryInto (neg : Bool) {w : Nat} (i : Nat) (x y : BitVec w) (c : Bool) :
    Bool :=
  BitVec.carry i x (if neg then ~~~y else y) (Bool.xor c neg)

theorem getLsbD_addSub {neg : Bool} {w i : Nat} (hi : i < w) (x y : BitVec w)
    (c : Bool) :
    (addSub neg x y c).getLsbD i =
      Bool.xor (x.getLsbD i)
        (Bool.xor (Bool.xor (y.getLsbD i) neg) (carryInto neg i x y c)) := by
  unfold addSub carryInto
  cases neg with
  | false =>
      simp only [Bool.false_eq_true, if_false, Bool.xor_false]
      exact BitVec.getLsbD_add_add_bool hi x y c
  | true =>
      simp only [if_true, Bool.xor_true]
      rw [sub_sub_bool, BitVec.getLsbD_add_add_bool hi, BitVec.getLsbD_not]
      simp [hi]

theorem carryInto_succ (neg : Bool) {w i : Nat} (hi : i < w) (x y : BitVec w)
    (c : Bool) :
    carryInto neg (i + 1) x y c =
      Bool.atLeastTwo (x.getLsbD i) (Bool.xor (y.getLsbD i) neg)
        (carryInto neg i x y c) := by
  unfold carryInto
  rw [BitVec.carry_succ]
  cases neg with
  | false =>
      simp
  | true =>
      simp [hi]

/-- Operands that agree below a position carry the same into it. -/
theorem carryInto_congr {neg : Bool} {v w i : Nat} {x y : BitVec v}
    {x' y' : BitVec w} (c : Bool) (hv : i ≤ v) (hw : i ≤ w)
    (hx : forall k, k < i -> x.getLsbD k = x'.getLsbD k)
    (hy : forall k, k < i -> y.getLsbD k = y'.getLsbD k) :
    carryInto neg i x y c = carryInto neg i x' y' c := by
  unfold carryInto
  apply carry_eq_of_getLsbD _ hx
  intro k hk
  cases neg with
  | false =>
      exact hy k hk
  | true =>
      have hkv : k < v := Nat.lt_of_lt_of_le hk hv
      have hkw : k < w := Nat.lt_of_lt_of_le hk hw
      simp only [if_true, BitVec.getLsbD_not, hy k hk, hkv, hkw]

/-- A bit of a sum computed on operands that agree below it. -/
theorem getLsbD_addSub_congr {neg : Bool} {v w i : Nat} {x y : BitVec v}
    {x' y' : BitVec w} (c : Bool) (hv : i < v) (hw : i ≤ w)
    (hx : forall k, k < i -> x.getLsbD k = x'.getLsbD k)
    (hy : forall k, k < i -> y.getLsbD k = y'.getLsbD k) :
    (addSub neg x y c).getLsbD i =
      Bool.xor (x.getLsbD i)
        (Bool.xor (Bool.xor (y.getLsbD i) neg) (carryInto neg i x' y' c)) := by
  rw [getLsbD_addSub hv, carryInto_congr c (Nat.le_of_lt hv) hw hx hy]

end Carry
end Foundation
