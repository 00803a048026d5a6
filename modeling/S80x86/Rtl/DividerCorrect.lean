import S80x86.Rtl.Divider
import S80x86.Foundation.NonRestoring
import Mathlib.Logic.Function.Iterate

/-!
# Correctness of the divider

The working cycles compute the digits of a non-restoring division of the
magnitudes, the restore cycle turns them into the Euclidean quotient and
remainder, and the sign-fix cycle turns those into truncated division.  The
overflow pre-checks and the final sign test together reject exactly the
quotients that do not fit.
-/

namespace S80x86
namespace Rtl
namespace Divider

open Foundation Foundation.Bits
open Foundation.NonRestoring (tdiv_eq_natAbs tmod_eq_natAbs)

/-!
## Operands as integers
-/

/-- The number of quotient bits. -/
def Inputs.width (i : Inputs) : Nat :=
  if i.is8Bit then 8 else 16

def Inputs.dividendVal (i : Inputs) : Int :=
  match i.isSigned, i.is8Bit with
  | true, true => (i.dividend.extractLsb' 0 16).toInt
  | true, false => i.dividend.toInt
  | false, true => (i.dividend.extractLsb' 0 16).toNat
  | false, false => i.dividend.toNat

def Inputs.divisorVal (i : Inputs) : Int :=
  match i.isSigned, i.is8Bit with
  | true, true => (i.divisor.extractLsb' 0 8).toInt
  | true, false => i.divisor.toInt
  | false, true => (i.divisor.extractLsb' 0 8).toNat
  | false, false => i.divisor.toNat

/-- The operand shapes that the core's operand wires produce. -/
def Inputs.Presented (i : Inputs) : Prop :=
  i.is8Bit = true ->
    if i.isSigned then
      i.dividend = (i.dividend.extractLsb' 0 16).signExtend 32 ∧
        i.divisor = (i.divisor.extractLsb' 0 8).signExtend 16
    else
      i.dividend = (i.dividend.extractLsb' 0 16).setWidth 32 ∧
        (i.divisor = 0#16 ↔ i.divisor.extractLsb' 0 8 = 0#8)

theorem dividendMag_toNat (i : Inputs) :
    i.dividendMag.toNat = i.dividend.toInt.natAbs :=
  mag_toNat (w := 31) i.dividend

theorem divisorMag_toNat (i : Inputs) :
    i.divisorMag.toNat = i.divisor.toInt.natAbs :=
  mag_toNat (w := 15) i.divisor

theorem presented_signed8 {i : Inputs} (hp : i.Presented)
    (h8 : i.is8Bit = true) (hs : i.isSigned = true) :
    i.dividend.toInt = (i.dividend.extractLsb' 0 16).toInt ∧
      i.divisor.toInt = (i.divisor.extractLsb' 0 8).toInt := by
  have h := hp h8
  rw [if_pos hs] at h
  constructor
  · have hle := BitVec.toInt_signExtend_of_le
      (x := i.dividend.extractLsb' 0 16) (v := 32) (by decide)
    rw [← h.left] at hle
    exact hle
  · have hle := BitVec.toInt_signExtend_of_le
      (x := i.divisor.extractLsb' 0 8) (v := 16) (by decide)
    rw [← h.right] at hle
    exact hle

theorem pInit_toNat {i : Inputs} (hp : i.Presented) :
    i.pInit.toNat = i.dividendVal.natAbs := by
  unfold Inputs.pInit Inputs.dividendVal
  cases h8 : i.is8Bit with
  | false =>
      cases hs : i.isSigned with
      | false =>
          have := i.dividend.isLt
          simp
          omega
      | true =>
          have := i.dividendMag.isLt
          simp [← dividendMag_toNat]
          omega
  | true =>
      cases hs : i.isSigned with
      | false =>
          simp
          omega
      | true =>
          have hv := (presented_signed8 hp h8 hs).left
          have hle := natAbs_toInt_le (w := 15) (i.dividend.extractLsb' 0 16)
          have hmag := dividendMag_toNat i
          rw [hv] at hmag
          rw [← hmag] at hle ⊢
          simp only [if_true, BitVec.toNat_setWidth, BitVec.extractLsb'_toNat]
          simp
          omega

theorem D_toNat {i : Inputs} (hp : i.Presented) :
    i.D.toNat = i.divisorVal.natAbs * 2 ^ i.width := by
  unfold Inputs.D Inputs.divisorVal Inputs.width
  cases h8 : i.is8Bit with
  | false =>
      cases hs : i.isSigned with
      | false =>
          have := i.divisor.isLt
          simp [Nat.shiftLeft_eq]
          omega
      | true =>
          have := i.divisorMag.isLt
          simp [Nat.shiftLeft_eq, ← divisorMag_toNat]
          omega
  | true =>
      cases hs : i.isSigned with
      | false =>
          simp [Nat.shiftLeft_eq]
          omega
      | true =>
          have hv := (presented_signed8 hp h8 hs).right
          have hle := natAbs_toInt_le (w := 7) (i.divisor.extractLsb' 0 8)
          have hmag := divisorMag_toNat i
          rw [hv] at hmag
          rw [← hmag] at hle ⊢
          simp [Nat.shiftLeft_eq]
          omega

theorem width_cases (i : Inputs) :
    (i.is8Bit = true ∧ i.width = 8) ∨ (i.is8Bit = false ∧ i.width = 16) := by
  unfold Inputs.width
  cases i.is8Bit <;> simp

theorem dividendVal_natAbs_le (i : Inputs) :
    i.dividendVal.natAbs ≤
      if i.isSigned then 2 ^ (2 * i.width - 1) else 2 ^ (2 * i.width) - 1 := by
  unfold Inputs.dividendVal Inputs.width
  cases h8 : i.is8Bit with
  | false =>
      cases hs : i.isSigned with
      | false =>
          have := i.dividend.isLt
          simp
          omega
      | true =>
          simpa using natAbs_toInt_le (w := 31) i.dividend
  | true =>
      cases hs : i.isSigned with
      | false =>
          have := (i.dividend.extractLsb' 0 16).isLt
          simp
          omega
      | true =>
          simpa using natAbs_toInt_le (w := 15) (i.dividend.extractLsb' 0 16)

theorem divisorVal_natAbs_le (i : Inputs) :
    i.divisorVal.natAbs ≤
      if i.isSigned then 2 ^ (i.width - 1) else 2 ^ i.width - 1 := by
  unfold Inputs.divisorVal Inputs.width
  cases h8 : i.is8Bit with
  | false =>
      cases hs : i.isSigned with
      | false =>
          have := i.divisor.isLt
          simp
          omega
      | true =>
          simpa using natAbs_toInt_le (w := 15) i.divisor
  | true =>
      cases hs : i.isSigned with
      | false =>
          have := (i.divisor.extractLsb' 0 8).isLt
          simp
          omega
      | true =>
          simpa using natAbs_toInt_le (w := 7) (i.divisor.extractLsb' 0 8)

theorem divisor_eq_zero_iff {i : Inputs} (hp : i.Presented) :
    i.divisor = 0#16 ↔ i.divisorVal = 0 := by
  unfold Inputs.divisorVal
  cases h8 : i.is8Bit with
  | false =>
      cases hs : i.isSigned with
      | false =>
          simp [BitVec.toNat_eq]
      | true =>
          simp [← BitVec.toInt_inj]
  | true =>
      have h := hp h8
      cases hs : i.isSigned with
      | false =>
          simp only [hs, Bool.false_eq_true, if_false] at h
          rw [h.right]
          simp [BitVec.toNat_eq]
          omega
      | true =>
          rw [← BitVec.toInt_inj, (presented_signed8 hp h8 hs).right]
          simp

/-- The unsigned pre-check is the exact range test. -/
theorem unsignedOverflow_iff {i : Inputs} (hs : i.isSigned = false) :
    i.unsignedOverflow = true ↔
      i.divisorVal.natAbs * 2 ^ i.width ≤ i.dividendVal.natAbs := by
  unfold Inputs.unsignedOverflow Inputs.divisorVal Inputs.dividendVal
    Inputs.width
  rw [hs]
  cases h8 : i.is8Bit with
  | false =>
      have := i.divisor.isLt
      simp [BitVec.le_def, Nat.shiftLeft_eq]
      omega
  | true =>
      simp [BitVec.le_def, Nat.shiftLeft_eq]
      omega

/--
The signed pre-check ignores the top bit of the magnitude, so it misses the
most negative dividend; the sign-fix cycle catches that one.
-/
theorem signedOverflow_iff {i : Inputs} (hp : i.Presented)
    (hs : i.isSigned = true) :
    i.signedOverflow = true ↔
      i.inSignsEqual = true ∧
        i.divisorVal.natAbs ≤
          i.dividendVal.natAbs % 2 ^ (2 * i.width - 1) / 2 ^ (i.width - 1) := by
  unfold Inputs.signedOverflow Inputs.divisorVal Inputs.dividendVal
    Inputs.width
  rw [hs]
  cases h8 : i.is8Bit with
  | false =>
      have hd := dividendMag_toNat i
      have hv := divisorMag_toNat i
      have hlt := i.dividendMag.isLt
      simp [BitVec.le_def, Nat.shiftRight_eq_div_pow, hv, ← hd]
      omega
  | true =>
      rcases presented_signed8 hp h8 hs with ⟨hdd, hdv⟩
      have hd := dividendMag_toNat i
      have hv := divisorMag_toNat i
      have hle := natAbs_toInt_le (w := 7) (i.divisor.extractLsb' 0 8)
      rw [hdd] at hd
      rw [hdv] at hv
      rw [← hv] at hle
      rw [← hd, ← hv]
      simp [BitVec.le_def, Nat.shiftRight_eq_div_pow]
      omega

/-!
## The working cycles
-/

theorem toInt_double_sub {x : BitVec 64} (d : BitVec 32)
    (hlow : -(2 ^ 50) ≤ x.toInt) (hhigh : x.toInt ≤ 2 ^ 50) :
    (x * 2#64 - d.setWidth 64).toInt = 2 * x.toInt - d.toNat := by
  have hd := d.isLt
  have h2 : (2#64).toInt = 2 := by decide
  have hdz : (d.setWidth 64).toInt = d.toNat := by
    rw [BitVec.toInt_setWidth, Int.bmod_eq_of_le] <;> omega
  rw [BitVec.toInt_sub, BitVec.toInt_mul, h2, hdz]
  rw [Int.bmod_eq_of_le (n := x.toInt * 2) (by omega) (by omega)]
  rw [Int.bmod_eq_of_le (by omega) (by omega)]
  omega

theorem toInt_double_add {x : BitVec 64} (d : BitVec 32)
    (hlow : -(2 ^ 50) ≤ x.toInt) (hhigh : x.toInt ≤ 2 ^ 50) :
    (x * 2#64 + d.setWidth 64).toInt = 2 * x.toInt + d.toNat := by
  have hd := d.isLt
  have h2 : (2#64).toInt = 2 := by decide
  have hdz : (d.setWidth 64).toInt = d.toNat := by
    rw [BitVec.toInt_setWidth, Int.bmod_eq_of_le] <;> omega
  rw [BitVec.toInt_add, BitVec.toInt_mul, h2, hdz]
  rw [Int.bmod_eq_of_le (n := x.toInt * 2) (by omega) (by omega)]
  rw [Int.bmod_eq_of_le (by omega) (by omega)]
  omega

theorem toNat_or_bit {q : BitVec 16} {Q m : Nat} (hm : m < 16)
    (hq : q.toNat = Q * 2 ^ (m + 1)) :
    (q ||| (1#16 <<< m)).toNat = (2 * Q + 1) * 2 ^ m := by
  have hone : (1#16 <<< m).toNat = 1 <<< m := by
    rw [BitVec.toNat_shiftLeft]
    apply Nat.mod_eq_of_lt
    rw [Nat.shiftLeft_eq]
    have := Nat.pow_lt_pow_right (a := 2) (by decide) hm
    simpa using this
  have hQ : Q * 2 ^ (m + 1) = (2 * Q) <<< m := by
    rw [Nat.shiftLeft_eq, pow_succ]
    ring
  have hor : 2 * Q ||| 1 = 2 * Q + 1 := by
    have := Nat.shiftLeft_add_eq_or_of_lt (b := 1) (i := 1) (by decide) Q
    rw [Nat.shiftLeft_eq] at this
    rw [mul_comm 2 Q]
    exact this.symm
  rw [BitVec.toNat_or, hq, hone, hQ, ← Nat.shiftLeft_or_distrib, hor,
    Nat.shiftLeft_eq]

/-- The digits and remainder the working cycles have produced after `k` of them. -/
def Inputs.digits (i : Inputs) (k : Nat) : NonRestoring.Partial :=
  NonRestoring.iterate (i.D.toNat) (i.dividendVal.natAbs) k

theorem digits_succ (i : Inputs) (k : Nat) :
    i.digits (k + 1) = NonRestoring.step i.D.toNat (i.digits k) := rfl

/-- The registers after `k` working cycles. -/
structure Working (i : Inputs) (k : Nat) (s : Divider) : Prop where
  le : k ≤ i.width
  state : s.state = if k < i.width then .WORKING else .RESTORE
  rem : s.P.toInt = (i.digits k).rem
  quo : s.quotient.toNat = (i.digits k).quo * 2 ^ (i.width - k)
  idx : k < i.width -> s.idx.toNat = i.width - 1 - k
  error : s.error = false
  complete : s.complete = false

theorem digits_rem_bounds (i : Inputs) {k : Nat} (hk : k ≤ 16) :
    -(2 ^ 50) ≤ (i.digits k).rem ∧ (i.digits k).rem ≤ 2 ^ 50 := by
  have hD := i.D.isLt
  have ha : i.dividendVal.natAbs < 2 ^ 32 := by
    have h := dividendVal_natAbs_le i
    rcases width_cases i with ⟨_, hw⟩ | ⟨_, hw⟩ <;> rw [hw] at h <;>
      split at h <;> omega
  have h := NonRestoring.iterate_rem_le (D := i.D.toNat)
    (P := i.dividendVal.natAbs) (by omega) (by omega) k
  have hpow : (2 : Int) ^ k ≤ 2 ^ 16 := pow_le_pow_right₀ (by decide) hk
  have hprod : (2 : Int) ^ k * i.dividendVal.natAbs ≤ 2 ^ 16 * 2 ^ 32 := by
    apply mul_le_mul hpow <;> first | positivity | omega
  constructor
  · have := h.left
    show -(2 ^ 50) ≤ (NonRestoring.iterate _ _ k).rem
    omega
  · have := h.right
    show (NonRestoring.iterate _ _ k).rem ≤ 2 ^ 50
    omega

/-- Drive the divider the way the core does: start is held until complete. -/
def drive (i : Inputs) (s : Divider) : Divider :=
  step { i with start := !s.complete } s

theorem working_step {i : Inputs} (hr : i.reset = false) {k : Nat}
    {s : Divider} (h : Working i k s) (hk : k < i.width) :
    Working i (k + 1) (drive i s) := by
  have hw16 : i.width ≤ 16 := by
    rcases width_cases i with ⟨_, hw⟩ | ⟨_, hw⟩ <;> omega
  have hidx := h.idx hk
  have hstate : s.state = .WORKING := by rw [h.state, if_pos hk]
  have hbounds := digits_rem_bounds i (k := k) (by omega)
  rw [← h.rem] at hbounds
  have hnext : (if s.idx == 0#4 then DivState.RESTORE else .WORKING) =
      if k + 1 < i.width then .WORKING else .RESTORE := by
    by_cases hlast : k + 1 < i.width
    · have hne : s.idx ≠ 0#4 := by
        intro h0
        rw [h0] at hidx
        simp at hidx
        omega
      simp [hne, hlast]
    · have h0 : s.idx = 0#4 := by
        apply BitVec.eq_of_toNat_eq
        rw [hidx]
        simp
        omega
      simp [h0, hlast]
  have hidx' : k + 1 < i.width ->
      (s.idx - 1#4).toNat = i.width - 1 - (k + 1) := by
    intro hlt
    rw [BitVec.toNat_sub_of_le]
    · rw [hidx]
      simp
      omega
    · rw [BitVec.le_def, hidx]
      simp
      omega
  have hrem := h.rem
  have hpow : i.width - k = (i.width - 1 - k) + 1 := by omega
  have hquo := h.quo
  rw [hpow] at hquo
  have hsub : i.width - (k + 1) = i.width - 1 - k := by omega
  cases hm : s.P.msb with
  | false =>
      have hnn : 0 ≤ (i.digits k).rem := by
        rw [← hrem]
        exact BitVec.toInt_nonneg_of_msb_false hm
      have hdig := NonRestoring.step_of_nonneg (D := i.D.toNat) hnn
      rw [← digits_succ] at hdig
      have hs : drive i s =
          { s with
            state := if s.idx == 0#4 then .RESTORE else .WORKING
            quotient := s.quotient ||| (1#16 <<< s.idx.toNat)
            P := s.P * 2#64 - i.D.setWidth 64
            idx := s.idx - 1#4 } := by
        simp only [drive, step, hr, hstate, nextState, hm]
        rfl
      rw [hs, hnext]
      refine ⟨by omega, rfl, ?_, ?_, hidx', h.error, h.complete⟩
      · rw [hdig, toInt_double_sub i.D hbounds.left hbounds.right, hrem]
      · rw [hdig, hidx, hsub]
        exact toNat_or_bit (by omega) hquo
  | true =>
      have hneg : (i.digits k).rem < 0 := by
        rw [← hrem]
        exact BitVec.toInt_neg_of_msb_true hm
      have hdig := NonRestoring.step_of_neg (D := i.D.toNat) hneg
      rw [← digits_succ] at hdig
      have hs : drive i s =
          { s with
            state := if s.idx == 0#4 then .RESTORE else .WORKING
            P := s.P * 2#64 + i.D.setWidth 64
            idx := s.idx - 1#4 } := by
        simp only [drive, step, hr, hstate, nextState, hm]
        rfl
      rw [hs, hnext]
      refine ⟨by omega, rfl, ?_, ?_, hidx', h.error, h.complete⟩
      · rw [hdig, toInt_double_add i.D hbounds.left hbounds.right, hrem]
      · rw [hdig, hsub, hquo, pow_succ]
        show _ = 2 * (i.digits k).quo * _
        ring

theorem working_run {i : Inputs} (hr : i.reset = false) {s : Divider}
    (h : Working i 0 s) :
    forall k, k ≤ i.width -> Working i k ((drive i)^[k] s) := by
  intro k
  induction k with
  | zero =>
      intro _
      exact h
  | succ k ih =>
      intro hk
      rw [Function.iterate_succ_apply']
      exact working_step hr (ih (by omega)) (by omega)

/-!
## The restore cycle
-/

/-- The magnitudes the divider holds once the last digit is repaired. -/
structure Restored (i : Inputs) (s : Divider) : Prop where
  fits : i.dividendVal.natAbs < i.divisorVal.natAbs * 2 ^ i.width ->
    s.quotient.toNat = i.dividendVal.natAbs / i.divisorVal.natAbs ∧
      s.P.toNat % 2 ^ 32 =
        i.dividendVal.natAbs % i.divisorVal.natAbs * 2 ^ i.width
  saturates : i.divisorVal.natAbs * 2 ^ i.width ≤ i.dividendVal.natAbs ->
    s.quotient.toNat = 2 ^ i.width - 1
  error : s.error = false

theorem restoredQuotient_toNat {i : Inputs} {s : Divider} {Q : Nat}
    (hquo : s.quotient.toNat = Q) (hQ : Q < 2 ^ i.width) :
    (restoredQuotient i s).toNat =
      (2 * Q + 1 - (if s.P.msb then 1 else 0)) % 2 ^ i.width := by
  unfold restoredQuotient
  rcases width_cases i with ⟨h8, hw⟩ | ⟨h8, hw⟩
  · rw [hw] at hQ ⊢
    rw [if_pos h8]
    cases s.P.msb with
    | false =>
        simp [BitVec.toNat_sub, hquo]
        omega
    | true =>
        simp [BitVec.toNat_sub, hquo]
        omega
  · rw [hw] at hQ ⊢
    rw [h8]
    cases s.P.msb with
    | false =>
        simp [BitVec.toNat_sub, hquo]
        omega
    | true =>
        simp [BitVec.toNat_sub, hquo]
        omega

theorem toNat_add_signExtend_mod (x : BitVec 64) (d : BitVec 32) :
    ((x + d.signExtend 64).toNat : Int) % 2 ^ 32 =
      (x.toInt + d.toNat) % 2 ^ 32 := by
  have hx := BitVec.toInt_eq_msb_cond x
  have hd := BitVec.toNat_signExtend (v := 64) d
  rw [BitVec.toNat_add, hd]
  simp only [BitVec.toNat_setWidth]
  have hlt := d.isLt
  rw [hx]
  split <;> split <;> push_cast <;> omega

theorem D_cast {i : Inputs} (hp : i.Presented) :
    (i.D.toNat : Int) = (i.divisorVal.natAbs : Int) * 2 ^ i.width := by
  exact_mod_cast D_toNat hp

/-- What the last digits say about the quotient and the remainder. -/
theorem digits_fits {i : Inputs} (hp : i.Presented)
    (hfit : i.dividendVal.natAbs < i.divisorVal.natAbs * 2 ^ i.width) :
    let last := i.digits i.width
    let neg : Nat := if last.rem < 0 then 1 else 0
    2 * last.quo + 1 - neg =
        i.dividendVal.natAbs / i.divisorVal.natAbs + 2 ^ i.width ∧
      last.rem + neg * i.D.toNat =
        ((i.dividendVal.natAbs % i.divisorVal.natAbs * 2 ^ i.width : Nat) :
          Int) := by
  have hD := D_cast hp
  have hpair : NonRestoring.restored (i.divisorVal.natAbs) i.width
      (i.digits i.width) =
        ((i.dividendVal.natAbs : Int) / i.divisorVal.natAbs,
          (i.dividendVal.natAbs : Int) % i.divisorVal.natAbs) := by
    rw [Inputs.digits, hD]
    exact NonRestoring.restored_eq_div_mod (n := i.width)
      (Int.natCast_nonneg _) (by exact_mod_cast hfit)
  have hscale : (i.digits i.width).rem =
      2 ^ i.width * ((i.digits i.width).rem / 2 ^ i.width) := by
    rw [Inputs.digits, hD]
    exact (NonRestoring.iterate_rem_div i.width).right
  rw [NonRestoring.restored] at hpair
  generalize i.dividendVal.natAbs = a at hpair ⊢
  generalize i.divisorVal.natAbs = d at hpair hD ⊢
  intro last neg
  by_cases hneg : last.rem < 0
  · have h1 : neg = 1 := if_pos hneg
    rw [if_pos hneg] at hpair
    injection hpair with hdiv hrem
    constructor
    · show 2 * (i.digits i.width).quo + 1 - neg = a / d + 2 ^ i.width
      rw [h1]
      zify
      omega
    · show (i.digits i.width).rem + neg * i.D.toNat = _
      push_cast
      rw [h1, hD, ← hrem, hscale]
      push_cast
      rw [Int.mul_ediv_cancel_left _ (by positivity)]
      ring
  · have h0 : neg = 0 := if_neg hneg
    rw [if_neg hneg] at hpair
    injection hpair with hdiv hrem
    constructor
    · show 2 * (i.digits i.width).quo + 1 - neg = a / d + 2 ^ i.width
      rw [h0]
      zify
      omega
    · show (i.digits i.width).rem + neg * i.D.toNat = _
      push_cast
      rw [h0, ← hrem, mul_comm _ ((2 : Int) ^ i.width), ← hscale]
      push_cast
      ring

theorem digits_saturates {i : Inputs} (hp : i.Presented)
    (hsat : i.divisorVal.natAbs * 2 ^ i.width ≤ i.dividendVal.natAbs) :
    ¬ (i.digits i.width).rem < 0 ∧
      (i.digits i.width).quo = 2 ^ i.width - 1 := by
  have hs := NonRestoring.iterate_saturates (D := i.D.toNat)
    (P := i.dividendVal.natAbs) (Int.natCast_nonneg _)
    (by rw [D_cast hp]; exact_mod_cast hsat) i.width
  constructor
  · rw [not_lt]
    exact le_trans (Int.natCast_nonneg _) hs.left
  · exact hs.right.right

theorem remainder_shifted_lt {i : Inputs} (h0 : 0 < i.divisorVal.natAbs) :
    i.dividendVal.natAbs % i.divisorVal.natAbs * 2 ^ i.width < 2 ^ 32 := by
  have hlt := Nat.mod_lt i.dividendVal.natAbs h0
  have hdle := divisorVal_natAbs_le i
  rcases width_cases i with ⟨_, hw⟩ | ⟨_, hw⟩ <;> rw [hw] at hdle ⊢ <;>
    split at hdle <;> omega

theorem restore_step {i : Inputs} (hr : i.reset = false) (hp : i.Presented)
    {s : Divider} (h : Working i i.width s) :
    Restored i (drive i s) ∧
      (drive i s).state = (if i.isSigned then .FIX_SIGN else .INIT) ∧
      (drive i s).complete = !i.isSigned := by
  have hstate : s.state = .RESTORE := by rw [h.state, if_neg (lt_irrefl _)]
  have hs : drive i s =
      { s with
        state := if i.isSigned then .FIX_SIGN else .INIT
        quotient := restoredQuotient i s
        P := if s.P.msb then s.P + i.D.signExtend 64 else s.P
        complete := !i.isSigned } := by
    simp only [drive, step, hr, hstate, nextState]
    rfl
  have hquo : s.quotient.toNat = (i.digits i.width).quo := by
    rw [h.quo]
    simp
  have hrq := restoredQuotient_toNat hquo (NonRestoring.iterate_quo_lt _ _ _)
  have hmsb := msb_iff_toInt_neg s.P
  rw [h.rem] at hmsb
  rw [if_congr hmsb rfl rfl] at hrq
  rw [hs]
  refine ⟨⟨?_, ?_, h.error⟩, rfl, rfl⟩
  · intro hfit
    have h0 : 0 < i.divisorVal.natAbs := by
      apply Nat.pos_of_ne_zero
      intro h0
      rw [h0] at hfit
      omega
    have hdlt : i.dividendVal.natAbs / i.divisorVal.natAbs < 2 ^ i.width :=
      Nat.div_lt_of_lt_mul hfit
    have hmod := remainder_shifted_lt h0
    rcases digits_fits hp hfit with ⟨hdiv, hrem⟩
    constructor
    · show (restoredQuotient i s).toNat = _
      rw [hrq, hdiv, Nat.add_mod_right, Nat.mod_eq_of_lt hdlt]
    · show (if s.P.msb then s.P + i.D.signExtend 64 else s.P).toNat % _ = _
      by_cases hneg : (i.digits i.width).rem < 0
      · have hsum := toNat_add_signExtend_mod s.P i.D
        rw [if_pos hneg, ← h.rem] at hrem
        rw [if_pos (hmsb.mpr hneg)]
        omega
      · have hnm : ¬ s.P.msb = true := fun hm => hneg (hmsb.mp hm)
        rw [if_neg hneg, ← h.rem, BitVec.toInt_eq_msb_cond, if_neg hnm] at hrem
        rw [if_neg hnm]
        omega
  · intro hsat
    rcases digits_saturates hp hsat with ⟨hnn, hq⟩
    show (restoredQuotient i s).toNat = _
    rw [hrq, if_neg hnn, hq]
    rcases width_cases i with ⟨_, hw⟩ | ⟨_, hw⟩ <;> rw [hw] <;> rfl

/-!
## The sign-fix cycle
-/

theorem inSignsEqual_iff {i : Inputs} (hs : i.isSigned = true) :
    i.inSignsEqual = true ↔ (i.dividendVal < 0 ↔ i.divisorVal < 0) := by
  unfold Inputs.inSignsEqual Inputs.dividendVal Inputs.divisorVal
  rw [hs]
  cases h8 : i.is8Bit with
  | false =>
      have hd : i.dividend.getLsbD 31 = i.dividend.msb := rfl
      have hv : i.divisor.getLsbD 15 = i.divisor.msb := rfl
      simp only [hd, hv, ← msb_iff_toInt_neg, Bool.false_eq_true, if_false]
      cases i.dividend.msb <;> cases i.divisor.msb <;> decide
  | true =>
      have hd : i.dividend.getLsbD 15 = (i.dividend.extractLsb' 0 16).msb := by
        simp [BitVec.msb_eq_getLsbD_last]
      have hv : i.divisor.getLsbD 7 = (i.divisor.extractLsb' 0 8).msb := by
        simp [BitVec.msb_eq_getLsbD_last]
      simp only [hd, hv, ← msb_iff_toInt_neg, if_true]
      cases (i.dividend.extractLsb' 0 16).msb <;>
        cases (i.divisor.extractLsb' 0 8).msb <;> decide

theorem dividendNegative_iff {i : Inputs} (hs : i.isSigned = true) :
    i.dividendNegative = true ↔ i.dividendVal < 0 := by
  unfold Inputs.dividendNegative Inputs.dividendVal
  rw [hs]
  cases h8 : i.is8Bit with
  | false =>
      exact msb_iff_toInt_neg i.dividend
  | true =>
      have hd : i.dividend.getLsbD 15 = (i.dividend.extractLsb' 0 16).msb := by
        simp [BitVec.msb_eq_getLsbD_last]
      simp only [hd, if_true]
      exact msb_iff_toInt_neg _

/-- The result bits of a 16-bit output, read in the operands' signedness. -/
def Inputs.resultVal (i : Inputs) (v : BitVec 16) : Int :=
  match i.isSigned, i.is8Bit with
  | true, true => (v.extractLsb' 0 8).toInt
  | true, false => v.toInt
  | false, true => (v.extractLsb' 0 8).toNat
  | false, false => v.toNat

/-- The integers that a result of the operation's width can hold. -/
def Inputs.Representable (i : Inputs) (q : Int) : Prop :=
  if i.isSigned then -(2 ^ (i.width - 1)) ≤ q ∧ q < 2 ^ (i.width - 1)
  else 0 ≤ q ∧ q < 2 ^ i.width

instance (i : Inputs) (q : Int) : Decidable (i.Representable q) := by
  unfold Inputs.Representable
  infer_instance

/-!
## Results
-/

/-- The outcome the divider owes for its operands, in the cycle of `complete`. -/
structure Divided (i : Inputs) (s : Divider) : Prop where
  complete : s.complete = true
  error_iff : s.error = true ↔
    i.divisorVal = 0 ∨ ¬ i.Representable (i.dividendVal.tdiv i.divisorVal)
  quotient : s.error = false ->
    i.resultVal s.quotient = i.dividendVal.tdiv i.divisorVal
  remainder : s.error = false ->
    i.resultVal (remainder i s) = i.dividendVal.tmod i.divisorVal

/-- The output slice of a remainder that was left as it is. -/
theorem resultVal_remainder {i : Inputs} {s : Divider} {r : Nat}
    (hP : s.P.toNat % 2 ^ 32 = r * 2 ^ i.width)
    (hr : r < if i.isSigned then 2 ^ (i.width - 1) else 2 ^ i.width) :
    i.resultVal (remainder i s) = r := by
  unfold Inputs.resultVal remainder
  rcases width_cases i with ⟨h8, hw⟩ | ⟨h8, hw⟩
  · rw [hw] at hP hr
    have hslice : (s.P.extractLsb' 8 8).toNat = r := by
      rw [BitVec.extractLsb'_toNat, Nat.shiftRight_eq_div_pow]
      split at hr <;> omega
    have hext : ((s.P.extractLsb' 8 8).signExtend 16).extractLsb' 0 8 =
        s.P.extractLsb' 8 8 := by
      ext k hk
      simp [BitVec.getLsbD_signExtend, hk]
      omega
    cases hsg : i.isSigned with
    | false =>
        simp only [h8, if_true, hext, hslice]
    | true =>
        rw [hsg] at hr
        simp only [h8, if_true, hext]
        exact toInt_of_toNat_lt hslice hr
  · rw [hw] at hP hr
    have hslice : (s.P.extractLsb' 16 16).toNat = r := by
      rw [BitVec.extractLsb'_toNat, Nat.shiftRight_eq_div_pow]
      split at hr <;> omega
    cases hsg : i.isSigned with
    | false =>
        simp only [h8, Bool.false_eq_true, if_false, hslice]
    | true =>
        rw [hsg] at hr
        simp only [h8, Bool.false_eq_true, if_false]
        exact toInt_of_toNat_lt hslice hr

/-- The output slice of a remainder whose sign was repaired. -/
theorem resultVal_negateRemainder {i : Inputs} {s t : Divider} {r : Nat}
    (hP : s.P.toNat % 2 ^ 32 = r * 2 ^ i.width)
    (ht : t.P = negateRemainder i s.P) (hsg : i.isSigned = true)
    (hneg : i.dividendNegative = true) (hr : r < 2 ^ (i.width - 1)) :
    i.resultVal (remainder i t) = -(r : Int) := by
  unfold Inputs.resultVal remainder
  unfold negateRemainder at ht
  rw [hneg] at ht
  rw [hsg]
  rcases width_cases i with ⟨h8, hw⟩ | ⟨h8, hw⟩
  · rw [hw] at hP hr
    rw [h8] at ht
    have hslice : (s.P.extractLsb' 8 8).toNat = r := by
      rw [BitVec.extractLsb'_toNat, Nat.shiftRight_eq_div_pow]
      omega
    have hext : ((t.P.extractLsb' 8 8).signExtend 16).extractLsb' 0 8 =
        ~~~(s.P.extractLsb' 8 8) + 1#8 := by
      rw [ht]
      simp only [Bool.and_self, if_true]
      rw [extractLsb'_setSlice _ _ _ _ (by decide)]
      ext k hk
      simp [BitVec.getLsbD_signExtend, hk]
      omega
    simp only [h8, if_true, hext]
    exact toInt_not_add_one hslice hr
  · rw [hw] at hP hr
    rw [h8] at ht
    have hslice : (s.P.extractLsb' 16 16).toNat = r := by
      rw [BitVec.extractLsb'_toNat, Nat.shiftRight_eq_div_pow]
      omega
    have hext : t.P.extractLsb' 16 16 =
        ~~~(s.P.extractLsb' 16 16) + 1#16 := by
      rw [ht]
      simp only [Bool.and_false, Bool.false_eq_true, if_false, if_true]
      rw [extractLsb'_setSlice _ _ _ _ (by decide)]
    simp only [h8, Bool.false_eq_true, if_false, hext]
    exact toInt_not_add_one hslice hr

theorem resultVal_of_unsigned {i : Inputs} (hs : i.isSigned = false)
    {v : BitVec 16} (hv : v.toNat < 2 ^ i.width) :
    i.resultVal v = v.toNat := by
  unfold Inputs.resultVal
  rw [hs]
  rcases width_cases i with ⟨h8, hw⟩ | ⟨h8, hw⟩
  · rw [hw] at hv
    simp [h8]
    omega
  · simp [h8]

theorem raiseError_false_iff (i : Inputs) :
    i.raiseError = false ↔ i.divisor ≠ 0#16 ∧ i.overflow = false := by
  unfold Inputs.raiseError
  cases i.overflow <;> simp

theorem divided_unsigned {i : Inputs} (hp : i.Presented)
    (hsg : i.isSigned = false) (he : i.raiseError = false) {s : Divider}
    (h : Restored i s) (hc : s.complete = true) : Divided i s := by
  rcases (raiseError_false_iff i).mp he with ⟨hz, hov⟩
  have hd0 : i.divisorVal ≠ 0 := fun h0 => hz ((divisor_eq_zero_iff hp).mpr h0)
  have hfit : i.dividendVal.natAbs < i.divisorVal.natAbs * 2 ^ i.width := by
    rw [← not_le, ← unsignedOverflow_iff hsg]
    unfold Inputs.overflow at hov
    rw [hsg] at hov
    simpa using hov
  have hnn : 0 ≤ i.dividendVal ∧ 0 ≤ i.divisorVal := by
    unfold Inputs.dividendVal Inputs.divisorVal
    rw [hsg]
    cases i.is8Bit
    · simp
    · simp
      omega
  rcases h.fits hfit with ⟨hq, hP⟩
  have hdiv := tdiv_eq_natAbs i.dividendVal i.divisorVal
  rw [if_pos (by omega)] at hdiv
  have hmod := tmod_eq_natAbs i.dividendVal i.divisorVal
  rw [if_neg (by omega)] at hmod
  have hlt : i.dividendVal.natAbs / i.divisorVal.natAbs < 2 ^ i.width :=
    Nat.div_lt_of_lt_mul hfit
  have hrep : i.Representable (i.dividendVal.tdiv i.divisorVal) := by
    unfold Inputs.Representable
    rw [hsg, hdiv]
    simp only [Bool.false_eq_true, if_false]
    exact ⟨Int.natCast_nonneg _, by exact_mod_cast hlt⟩
  refine ⟨hc, ?_, ?_, ?_⟩
  · simp [h.error, hd0, hrep]
  · intro _
    rw [resultVal_of_unsigned hsg (by omega), hq, hdiv]
  · intro _
    have hr : i.dividendVal.natAbs % i.divisorVal.natAbs <
        2 ^ i.width := by
      have hle := divisorVal_natAbs_le i
      have hlt := Nat.mod_lt i.dividendVal.natAbs (y := i.divisorVal.natAbs)
        (by omega)
      rw [hsg] at hle
      simp only [Bool.false_eq_true, if_false] at hle
      omega
    rw [resultVal_remainder hP (by simpa [hsg] using hr), hmod]

theorem negativeQuotient_toNat (s : Divider) :
    (negativeQuotient s).toNat = (2 ^ 16 - s.quotient.toNat) % 2 ^ 16 := by
  unfold negativeQuotient
  rw [← BitVec.neg_eq_not_add, BitVec.toNat_neg]

/-- The sign-fix cycle, field by field. -/
theorem fixSign_drive {i : Inputs} (hr : i.reset = false)
    (hsg : i.isSigned = true) {s : Divider} (hst : s.state = .FIX_SIGN) :
    drive i s =
      { s with
        state := .INIT
        quotient := if !i.inSignsEqual then negativeQuotient s else s.quotient
        error :=
          if !i.inSignsEqual then
            s.quotient != 0#16 && !((negativeQuotient s).getLsbD (i.width - 1))
          else
            s.quotient != 0#16 && s.quotient.getLsbD (i.width - 1)
        P := negateRemainder i s.P
        complete := true } := by
  rcases i with ⟨reset, start, is8Bit, isSigned, dividend, divisor⟩
  simp only at hr hsg
  subst hr hsg
  simp only [drive, step, hst, nextState, Bool.and_true, Bool.false_eq_true,
    if_false]
  cases is8Bit <;> rfl

theorem negativeQuotient_sign {i : Inputs} {s : Divider}
    (hq : s.quotient.toNat < 2 ^ i.width) (h0 : s.quotient.toNat ≠ 0) :
    (negativeQuotient s).getLsbD (i.width - 1) =
      decide (s.quotient.toNat ≤ 2 ^ (i.width - 1)) := by
  have hneg := negativeQuotient_toNat s
  rw [BitVec.getLsbD, Nat.testBit_eq_decide_div_mod_eq, hneg]
  rcases width_cases i with ⟨_, hw⟩ | ⟨_, hw⟩ <;> rw [hw] at hq ⊢ <;>
    simp <;> omega

theorem resultVal_quotient {i : Inputs} (hsg : i.isSigned = true)
    {v : BitVec 16} (hv : v.toNat < 2 ^ (i.width - 1)) :
    i.resultVal v = v.toNat := by
  unfold Inputs.resultVal
  rw [hsg]
  rcases width_cases i with ⟨h8, hw⟩ | ⟨h8, hw⟩
  · rw [hw] at hv
    have hslice : (v.extractLsb' 0 8).toNat = v.toNat := by
      simp
      omega
    simp only [h8]
    exact toInt_of_toNat_lt hslice hv
  · rw [hw] at hv
    simp only [h8]
    exact toInt_of_toNat_lt rfl hv

theorem resultVal_negativeQuotient {i : Inputs} (hsg : i.isSigned = true)
    {s : Divider} (hq : s.quotient.toNat ≤ 2 ^ (i.width - 1)) :
    i.resultVal (negativeQuotient s) = -(s.quotient.toNat : Int) := by
  have hneg := negativeQuotient_toNat s
  unfold Inputs.resultVal
  rw [hsg]
  rcases width_cases i with ⟨h8, hw⟩ | ⟨h8, hw⟩
  · rw [hw] at hq
    simp only [h8]
    rw [BitVec.toInt_eq_toNat_cond, BitVec.extractLsb'_toNat, hneg]
    simp
    split <;> omega
  · rw [hw] at hq
    simp only [h8]
    rw [BitVec.toInt_eq_toNat_cond, hneg]
    split <;> omega

/-- The error flag of the sign-fix cycle is the range test on the magnitude. -/
theorem fixSign_error {i : Inputs} (hr : i.reset = false)
    (hsg : i.isSigned = true) {s : Divider} (hst : s.state = .FIX_SIGN)
    (hq : s.quotient.toNat < 2 ^ i.width) :
    (drive i s).error = true ↔
      if i.inSignsEqual then 2 ^ (i.width - 1) ≤ s.quotient.toNat
      else 2 ^ (i.width - 1) < s.quotient.toNat := by
  have hw1 : i.width = (i.width - 1) + 1 := by
    rcases width_cases i with ⟨_, hw⟩ | ⟨_, hw⟩ <;> omega
  have hpos := Nat.two_pow_pos (i.width - 1)
  have hzero : (s.quotient != 0#16) = decide (s.quotient.toNat ≠ 0) := by
    rw [Bool.eq_iff_iff, bne_iff_ne, decide_eq_true_iff, ne_eq, ne_eq,
      BitVec.toNat_eq]
    rfl
  rw [fixSign_drive hr hsg hst]
  simp only [hzero]
  cases i.inSignsEqual with
  | false =>
      by_cases h0 : s.quotient.toNat = 0
      · simp [h0]
      · simp only [Bool.not_false, if_true, negativeQuotient_sign hq h0]
        simp [h0]
  | true =>
      simp only [Bool.not_true, Bool.false_eq_true, if_false,
        getLsbD_sign (by rw [← hw1]; exact hq)]
      simp
      omega

theorem fixSign_step {i : Inputs} (hr : i.reset = false)
    (hsg : i.isSigned = true) (hd0 : i.divisorVal ≠ 0) {s : Divider}
    (h : Restored i s) (hst : s.state = .FIX_SIGN) :
    Divided i (drive i s) := by
  have hdpos : 0 < i.divisorVal.natAbs := by omega
  have hdle := divisorVal_natAbs_le i
  rw [hsg] at hdle
  simp only [if_true] at hdle
  have hdiv := tdiv_eq_natAbs i.dividendVal i.divisorVal
  have hmod := tmod_eq_natAbs i.dividendVal i.divisorVal
  rw [if_congr (inSignsEqual_iff hsg).symm rfl rfl] at hdiv
  rw [if_congr (dividendNegative_iff hsg).symm rfl rfl] at hmod
  have hpow : 2 ^ i.width = 2 * 2 ^ (i.width - 1) := by
    rcases width_cases i with ⟨_, hw⟩ | ⟨_, hw⟩ <;> rw [hw] <;> rfl
  by_cases hfit :
      i.dividendVal.natAbs < i.divisorVal.natAbs * 2 ^ i.width
  · rcases h.fits hfit with ⟨hq, hP⟩
    have hqlt : s.quotient.toNat < 2 ^ i.width := by
      rw [hq]
      exact Nat.div_lt_of_lt_mul hfit
    have herr := fixSign_error hr hsg hst hqlt
    rw [hq] at herr
    have hrange : (drive i s).error = true ↔
        i.divisorVal = 0 ∨
          ¬ i.Representable (i.dividendVal.tdiv i.divisorVal) := by
      rw [herr, hdiv]
      unfold Inputs.Representable
      rw [hsg]
      have hcast : ((2 : Int) ^ (i.width - 1)) =
          ((2 ^ (i.width - 1) : Nat) : Int) := by
        push_cast
        rfl
      simp only [if_true, hd0, false_or, hcast]
      cases i.inSignsEqual with
      | false =>
          simp only [Bool.false_eq_true, if_false]
          omega
      | true =>
          simp only [if_true]
          omega
    refine ⟨by rw [fixSign_drive hr hsg hst], hrange, ?_, ?_⟩
    · intro hne
      rw [Bool.eq_false_iff, ne_eq, herr] at hne
      rw [fixSign_drive hr hsg hst, hdiv]
      cases hse : i.inSignsEqual with
      | false =>
          rw [hse] at hne
          simp only [Bool.false_eq_true, if_false, not_lt] at hne
          show i.resultVal (negativeQuotient s) = _
          rw [resultVal_negativeQuotient hsg (by omega), hq]
          rfl
      | true =>
          rw [hse] at hne
          simp only [if_true, not_le] at hne
          show i.resultVal s.quotient = _
          rw [resultVal_quotient hsg (by omega), hq]
          rfl
    · intro _
      have hrlt : i.dividendVal.natAbs % i.divisorVal.natAbs <
          2 ^ (i.width - 1) := by
        have := Nat.mod_lt i.dividendVal.natAbs hdpos
        omega
      have hPd : (drive i s).P = negateRemainder i s.P := by
        rw [fixSign_drive hr hsg hst]
      rw [hmod]
      cases hneg : i.dividendNegative with
      | false =>
          have hPs : (drive i s).P = s.P := by
            rw [hPd]
            unfold negateRemainder
            rw [hneg]
            rfl
          rw [← hPs] at hP
          rw [resultVal_remainder hP (by simpa [hsg] using hrlt)]
          rfl
      | true =>
          rw [resultVal_negateRemainder hP hPd hsg hneg hrlt]
          rfl
  · -- Only quotients above the width get here, and their digits are all ones.
    have hsat := h.saturates (not_lt.mp hfit)
    have hqlt : s.quotient.toNat < 2 ^ i.width := by omega
    have herr := fixSign_error hr hsg hst hqlt
    have hbig : 2 ^ i.width ≤ i.dividendVal.natAbs / i.divisorVal.natAbs := by
      rw [Nat.le_div_iff_mul_le hdpos, mul_comm]
      exact not_lt.mp hfit
    have hgt : 1 < 2 ^ (i.width - 1) := by
      rcases width_cases i with ⟨_, hw⟩ | ⟨_, hw⟩ <;> rw [hw] <;> decide
    have htrue : (drive i s).error = true := by
      rw [herr, hsat]
      split <;> omega
    refine ⟨by rw [fixSign_drive hr hsg hst], ?_, ?_, ?_⟩
    · refine iff_of_true htrue (Or.inr ?_)
      rw [hdiv]
      unfold Inputs.Representable
      rw [hsg]
      have hcast : ((2 : Int) ^ (i.width - 1)) =
          ((2 ^ (i.width - 1) : Nat) : Int) := by
        push_cast
        rfl
      simp only [if_true, hcast]
      split <;> omega
    · intro hne
      rw [htrue] at hne
      cases hne
    · intro hne
      rw [htrue] at hne
      cases hne

/-!
## Whole divisions
-/

theorem init_drive {i : Inputs} (hr : i.reset = false) {s : Divider}
    (hst : s.state = .INIT) (hc : s.complete = false) :
    drive i s =
      { s with
        state := if !s.error && !i.raiseError then .WORKING else .INIT
        quotient := 0#16
        P := i.pInit
        idx := if !i.is8Bit then 0xf#4 else 0x7#4
        error := i.raiseError
        complete := i.raiseError } := by
  rcases i with ⟨reset, start, is8Bit, isSigned, dividend, divisor⟩
  simp only at hr
  subst hr
  simp only [drive, step, hst, hc, nextState, Bool.not_false, Bool.true_and,
    Bool.false_eq_true, if_false, if_true]
  rfl

/-- The pre-checks only ever reject quotients that do not fit. -/
theorem init_error {i : Inputs} (hr : i.reset = false) (hp : i.Presented)
    {s : Divider} (hst : s.state = .INIT) (hc : s.complete = false)
    (he : i.raiseError = true) : Divided i (drive i s) := by
  have herr : (drive i s).error = true := by
    rw [init_drive hr hst hc]
    exact he
  have hbad : i.divisorVal = 0 ∨
      ¬ i.Representable (i.dividendVal.tdiv i.divisorVal) := by
    by_cases hd0 : i.divisorVal = 0
    · exact Or.inl hd0
    · apply Or.inr
      have hdpos : 0 < i.divisorVal.natAbs := by omega
      have hov : i.overflow = true := by
        cases ho : i.overflow with
        | true => rfl
        | false =>
            have := (raiseError_false_iff i).mpr
              ⟨fun h0 => hd0 ((divisor_eq_zero_iff hp).mp h0), ho⟩
            rw [he] at this
            cases this
      have hdiv := tdiv_eq_natAbs i.dividendVal i.divisorVal
      unfold Inputs.overflow at hov
      unfold Inputs.Representable
      cases hsg : i.isSigned with
      | false =>
          rw [hsg] at hov
          have hge := (unsignedOverflow_iff hsg).mp (by simpa using hov)
          have hbig : 2 ^ i.width ≤
              i.dividendVal.natAbs / i.divisorVal.natAbs := by
            rw [Nat.le_div_iff_mul_le hdpos, mul_comm]
            exact hge
          have hcast : ((2 : Int) ^ i.width) = ((2 ^ i.width : Nat) : Int) := by
            push_cast
            rfl
          rw [hdiv]
          simp only [Bool.false_eq_true, if_false, hcast]
          have := Nat.two_pow_pos i.width
          split <;> omega
      | true =>
          rw [hsg] at hov
          rcases (signedOverflow_iff hp hsg).mp (by simpa using hov) with
            ⟨hse, hge⟩
          have hbig : 2 ^ (i.width - 1) ≤
              i.dividendVal.natAbs / i.divisorVal.natAbs := by
            rw [Nat.le_div_iff_mul_le hdpos, mul_comm]
            have hmul := (Nat.le_div_iff_mul_le (Nat.two_pow_pos _)).mp hge
            exact le_trans hmul (Nat.mod_le _ _)
          have hcast : ((2 : Int) ^ (i.width - 1)) =
              ((2 ^ (i.width - 1) : Nat) : Int) := by
            push_cast
            rfl
          rw [hdiv, if_pos ((inSignsEqual_iff hsg).mp hse)]
          simp only [if_true, hcast]
          omega
  refine ⟨?_, iff_of_true herr hbad, ?_, ?_⟩
  · rw [init_drive hr hst hc]
    exact he
  · intro hne
    rw [herr] at hne
    cases hne
  · intro hne
    rw [herr] at hne
    cases hne

theorem init_loaded {i : Inputs} (hr : i.reset = false) (hp : i.Presented)
    {s : Divider} (hst : s.state = .INIT) (hc : s.complete = false)
    (hne : s.error = false) (he : i.raiseError = false) :
    Working i 0 (drive i s) := by
  have hP : i.pInit.toInt = (i.dividendVal.natAbs : Int) := by
    have hnat := pInit_toNat hp
    have hle := dividendVal_natAbs_le i
    rw [BitVec.toInt_eq_toNat_cond, hnat, if_pos]
    rcases width_cases i with ⟨_, hw⟩ | ⟨_, hw⟩ <;> rw [hw] at hle <;>
      split at hle <;> omega
  have hw0 : 0 < i.width := by
    rcases width_cases i with ⟨_, hw⟩ | ⟨_, hw⟩ <;> omega
  rw [init_drive hr hst hc]
  refine ⟨Nat.zero_le _, ?_, hP, ?_, ?_, he, he⟩
  · rw [if_pos hw0]
    simp [hne, he]
  · simp [Inputs.digits]
  · intro _
    rcases width_cases i with ⟨h8, hw⟩ | ⟨h8, hw⟩ <;> simp [h8, hw]

/-- The cycle in which `complete` first rises, and what the outputs are in it. -/
structure Completes (i : Inputs) (s : Divider) (n : Nat) : Prop where
  divided : Divided i ((drive i)^[n] s)
  first : forall m, m < n -> ((drive i)^[m] s).complete = false

theorem Completes.step {i : Inputs} {s : Divider} {n : Nat}
    (hc : s.complete = false) (h : Completes i (drive i s) n) :
    Completes i s (n + 1) := by
  refine ⟨h.divided, ?_⟩
  intro m hm
  cases m with
  | zero =>
      exact hc
  | succ m =>
      exact h.first m (by omega)

theorem Completes.steps {i : Inputs} {s : Divider} {k n : Nat}
    (hc : forall m, m < k -> ((drive i)^[m] s).complete = false)
    (h : Completes i ((drive i)^[k] s) n) : Completes i s (k + n) := by
  induction k generalizing s with
  | zero =>
      simpa using h
  | succ k ih =>
      rw [show k + 1 + n = (k + n) + 1 by omega]
      apply Completes.step (hc 0 (by omega))
      exact ih (fun m hm => hc (m + 1) (by omega)) h

theorem completes_working {i : Inputs} (hr : i.reset = false)
    (hp : i.Presented) (he : i.raiseError = false) {s : Divider}
    (h : Working i 0 s) :
    exists n, n ≤ i.width + 2 ∧ Completes i s n := by
  have hd0 : i.divisorVal ≠ 0 := fun h0 =>
    ((raiseError_false_iff i).mp he).left ((divisor_eq_zero_iff hp).mpr h0)
  have hrun := working_run hr h
  have hbusy : forall m, m < i.width ->
      ((drive i)^[m] s).complete = false :=
    fun m hm => (hrun m (by omega)).complete
  have hlast := hrun i.width (le_refl _)
  rcases restore_step hr hp hlast with ⟨hres, hst, hcomp⟩
  cases hsg : i.isSigned with
  | false =>
      rw [hsg] at hcomp
      refine ⟨i.width + 1, by omega, Completes.steps hbusy ?_⟩
      apply Completes.step (n := 0) hlast.complete
      exact ⟨divided_unsigned hp hsg he hres hcomp, fun m hm => by omega⟩
  | true =>
      rw [hsg] at hcomp hst
      refine ⟨i.width + 2, by omega, Completes.steps hbusy ?_⟩
      apply Completes.step (n := 1) hlast.complete
      apply Completes.step (n := 0) hcomp
      exact ⟨fixSign_step hr hsg hd0 hres hst, fun m hm => by omega⟩

/-- Every division completes. -/
theorem completes {i : Inputs} (hr : i.reset = false) (hp : i.Presented)
    {s : Divider} (hst : s.state = .INIT) (hc : s.complete = false) :
    exists n, n ≤ 20 ∧ Completes i s n := by
  have hw : i.width ≤ 16 := by
    rcases width_cases i with ⟨_, hw⟩ | ⟨_, hw⟩ <;> omega
  cases he : i.raiseError with
  | true =>
      refine ⟨1, by omega, Completes.step (n := 0) hc ?_⟩
      exact ⟨init_error hr hp hst hc he, fun m hm => by omega⟩
  | false =>
      have hdrive := init_drive hr hst hc
      rw [he] at hdrive
      have hcomp : (drive i s).complete = false := by rw [hdrive]
      cases herr : s.error with
      | false =>
          rcases completes_working hr hp he
            (init_loaded hr hp hst hc herr he) with ⟨n, hn, h⟩
          exact ⟨n + 1, by omega, Completes.step hc h⟩
      | true =>
          -- A stale error costs one more cycle in the initial state.
          have hst' : (drive i s).state = .INIT := by
            rw [hdrive, herr]
            rfl
          have herr' : (drive i s).error = false := by rw [hdrive]
          rcases completes_working hr hp he
            (init_loaded hr hp hst' hcomp herr' he) with ⟨n, hn, h⟩
          exact ⟨n + 2, by omega,
            Completes.step hc (Completes.step hcomp h)⟩

/--
Every division the core starts completes, and its outcome is the truncated
quotient and remainder, or an error exactly when there is none that fits.
-/
theorem divider_truncated_division (i : Inputs) (hr : i.reset = false)
    (hp : i.Presented) (s : Divider) (hst : s.state = .INIT)
    (hc : s.complete = false) :
    exists n, n ≤ 20 ∧
      (forall m, m < n -> ((drive i)^[m] s).complete = false) ∧
      ((drive i)^[n] s).complete = true ∧
      (((drive i)^[n] s).error = true ↔
        i.divisorVal = 0 ∨
          ¬ i.Representable (i.dividendVal.tdiv i.divisorVal)) ∧
      (((drive i)^[n] s).error = false ->
        i.resultVal ((drive i)^[n] s).quotient =
            i.dividendVal.tdiv i.divisorVal ∧
          i.resultVal (remainder i ((drive i)^[n] s)) =
            i.dividendVal.tmod i.divisorVal ∧
          (i.dividendVal.tmod i.divisorVal = 0 ∨
            (i.dividendVal.tmod i.divisorVal).sign = i.dividendVal.sign)) := by
  rcases completes hr hp hst hc with ⟨n, hn, h⟩
  refine ⟨n, hn, h.first, h.divided.complete, h.divided.error_iff, ?_⟩
  intro hok
  refine ⟨h.divided.quotient hok, h.divided.remainder hok, ?_⟩
  by_cases h0 : i.dividendVal.tmod i.divisorVal = 0
  · exact Or.inl h0
  · apply Or.inr
    have hmod := tmod_eq_natAbs i.dividendVal i.divisorVal
    by_cases hneg : i.dividendVal < 0
    · rw [if_pos hneg] at hmod
      rw [Int.sign_eq_neg_one_of_neg hneg, Int.sign_eq_neg_one_of_neg]
      omega
    · rw [if_neg hneg] at hmod
      have hpos : 0 < i.dividendVal := by
        rcases lt_or_eq_of_le (not_lt.mp hneg) with hlt | heq
        · exact hlt
        · rw [← heq] at h0
          simp at h0
      rw [Int.sign_eq_one_of_pos hpos, Int.sign_eq_one_of_pos]
      omega

/-- The 8-bit signed quotient of -100 by 7, from registers with arbitrary contents. -/
theorem divider_truncated_division_signed_byte :
    exists n, n ≤ 20 ∧
      ((drive ⟨false, false, true, true, 0xFFFFFF9C#32, 7#16⟩)^[n]
        ⟨.INIT, 5#64, 3#4, 7#16, true, false⟩).complete = true := by
  rcases divider_truncated_division
      ⟨false, false, true, true, 0xFFFFFF9C#32, 7#16⟩ rfl
      (by intro _; decide) ⟨.INIT, 5#64, 3#4, 7#16, true, false⟩ rfl rfl with
    ⟨n, hn, _, hc, _⟩
  exact ⟨n, hn, hc⟩
end Divider
end Rtl
end S80x86
