import Mathlib.Tactic.Ring
import Mathlib.Tactic.Linarith

/-!
# Part selects

Hardware registers are often written a few bits at a time.  This module models
the assignment to a part select and relates it to reading part selects back.
-/

namespace Foundation
namespace Bits

/-- The word with `len` bits from `start` on replaced. -/
def setSlice {w : Nat} (x : BitVec w) (start len : Nat) (v : BitVec len) :
    BitVec w :=
  (x &&& ~~~((BitVec.allOnes len).setWidth w <<< start)) |||
    (v.setWidth w <<< start)

theorem getLsbD_setSlice {w : Nat} (x : BitVec w) (start len : Nat)
    (v : BitVec len) (k : Nat) :
    (setSlice x start len v).getLsbD k =
      if start ≤ k ∧ k < start + len ∧ k < w then v.getLsbD (k - start)
      else x.getLsbD k := by
  unfold setSlice
  by_cases hw : k < w
  · by_cases hs : start ≤ k
    · by_cases he : k < start + len
      · have hlt : ¬ k < start := by omega
        have hlen : k - start < len := by omega
        simp [hw, hs, he, hlt, hlen]
      · have hlen : ¬ k - start < len := by omega
        simp [hw, hs, he, hlen, BitVec.getLsbD_of_ge v (k - start) (by omega)]
    · have hlt : k < start := by omega
      simp [hw, hs, hlt]
  · have hx : x.getLsbD k = false := BitVec.getLsbD_of_ge x k (by omega)
    simp [hw, hx]

theorem extractLsb'_setSlice {w : Nat} (x : BitVec w) (start len : Nat)
    (v : BitVec len) (hfit : start + len ≤ w) :
    (setSlice x start len v).extractLsb' start len = v := by
  apply BitVec.eq_of_getLsbD_eq
  intro k hk
  rw [BitVec.getLsbD_extractLsb', getLsbD_setSlice]
  have hin : start ≤ start + k ∧ start + k < start + len ∧ start + k < w := by
    omega
  simp [hk, hin]

@[simp] theorem extractLsb'_high_append (x y : BitVec 8) :
    (x ++ y).extractLsb' 8 8 = x :=
  BitVec.extractLsb'_append_eq_left

@[simp] theorem extractLsb'_low_append (x y : BitVec 8) :
    (x ++ y).extractLsb' 0 8 = y :=
  BitVec.extractLsb'_append_eq_right

@[simp] theorem append_halves (x : BitVec 16) :
    x.extractLsb' 8 8 ++ x.extractLsb' 0 8 = x :=
  @BitVec.extractLsb'_append_extractLsb' 8 8 x

@[simp] theorem extractLsb'_low_setWidth (x : BitVec 8) :
    (x.setWidth 16).extractLsb' 0 8 = x := by
  apply BitVec.eq_of_getLsbD_eq
  intro k hk
  simp [hk]
  omega

@[simp] theorem extractLsb'_high_setWidth (x : BitVec 8) :
    (x.setWidth 16).extractLsb' 8 8 = 0#8 := by
  apply BitVec.eq_of_getLsbD_eq
  intro k hk
  simp

@[simp] theorem zero_append (x : BitVec 8) : 0#8 ++ x = x.setWidth 16 := by
  have h := append_halves (x.setWidth 16)
  rw [extractLsb'_low_setWidth, extractLsb'_high_setWidth] at h
  exact h

/-!
## Signs and magnitudes
-/

theorem mag_toNat {w : Nat} (v : BitVec (w + 1)) :
    ((v + BitVec.fill (w + 1) v.msb) ^^^ BitVec.fill (w + 1) v.msb).toNat =
      v.toInt.natAbs := by
  cases hm : v.msb with
  | false =>
      have h0 : BitVec.fill (w + 1) false = 0#(w + 1) := by simp [BitVec.fill]
      rw [h0, BitVec.toInt_eq_toNat_of_msb hm]
      simp
  | true =>
      have h1 : BitVec.fill (w + 1) true = BitVec.allOnes (w + 1) := by
        simp [BitVec.fill, ← BitVec.neg_one_eq_allOnes]
      rw [h1, BitVec.xor_allOnes, BitVec.toNat_not, BitVec.toNat_add,
        BitVec.toNat_allOnes]
      have hpow : 2 ^ (w + 1) = 2 * 2 ^ w := by
        rw [pow_succ]
        ring
      have hpos := Nat.two_pow_pos w
      have hge : 2 ^ w ≤ v.toNat := by
        have := BitVec.msb_eq_true_iff_two_mul_ge.mp hm
        omega
      have hlt : v.toNat < 2 ^ (w + 1) := v.isLt
      have hint : v.toInt = v.toNat - ((2 ^ (w + 1) : Nat) : Int) := by
        rw [BitVec.toInt_eq_msb_cond, if_pos hm]
      have hsum : v.toNat + (2 ^ (w + 1) - 1) =
          (v.toNat - 1) + 2 ^ (w + 1) := by
        omega
      rw [hsum, Nat.add_mod_right, Nat.mod_eq_of_lt (by omega), hint]
      omega

theorem natAbs_toInt_le {w : Nat} (v : BitVec (w + 1)) :
    v.toInt.natAbs ≤ 2 ^ w := by
  have hlow := BitVec.le_two_mul_toInt (x := v)
  have hhigh := BitVec.two_mul_toInt_lt (x := v)
  have hpow : ((2 : Int) ^ (w + 1)) = 2 * ((2 ^ w : Nat) : Int) := by
    push_cast
    ring
  rw [hpow] at hlow hhigh
  omega

theorem msb_iff_toInt_neg {w : Nat} (x : BitVec w) :
    x.msb = true ↔ x.toInt < 0 := by
  cases hm : x.msb with
  | false =>
      have := BitVec.toInt_nonneg_of_msb_false hm
      simp
      omega
  | true =>
      have := BitVec.toInt_neg_of_msb_true hm
      simp
      omega

theorem toInt_of_toNat_lt {n : Nat} {x : BitVec (n + 1)} {r : Nat}
    (hx : x.toNat = r) (hr : r < 2 ^ n) : x.toInt = r := by
  have hpow : 2 ^ (n + 1) = 2 * 2 ^ n := by
    rw [pow_succ]
    ring
  rw [BitVec.toInt_eq_toNat_cond, hx, if_pos (by omega)]

theorem toInt_not_add_one {n : Nat} {x : BitVec (n + 1)} {r : Nat}
    (hx : x.toNat = r) (hr : r < 2 ^ n) : (~~~x + 1).toInt = -(r : Int) := by
  have hpow : 2 ^ (n + 1) = 2 * 2 ^ n := by
    rw [pow_succ]
    ring
  have hneg : ~~~x + 1 = -x := (BitVec.neg_eq_not_add x).symm
  rw [hneg, BitVec.toInt_neg, toInt_of_toNat_lt hx hr, hpow]
  apply Int.bmod_eq_of_le <;> omega

theorem getLsbD_sign {q : BitVec 16} {n : Nat}
    (hq : q.toNat < 2 ^ (n + 1)) :
    q.getLsbD n = decide (2 ^ n ≤ q.toNat) := by
  rw [BitVec.getLsbD, Nat.testBit_eq_decide_div_mod_eq]
  have hpow : 2 ^ (n + 1) = 2 * 2 ^ n := by
    rw [pow_succ]
    ring
  by_cases h : 2 ^ n ≤ q.toNat
  · have : q.toNat / 2 ^ n = 1 := by
      apply Nat.div_eq_of_lt_le <;> omega
    simp [this, h]
  · have : q.toNat / 2 ^ n = 0 := Nat.div_eq_of_lt (by omega)
    simp [this, h]

end Bits
end Foundation
