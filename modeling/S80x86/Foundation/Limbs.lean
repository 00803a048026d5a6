import S80x86.Foundation.Overflow
import Mathlib.Data.Nat.Digits.Defs

/-!
# Digit by digit

Addition and subtraction of long numbers, least significant digit first, from
a law for one digit: the digits denote the sum or difference modulo a power of
the base, and the last carry is the one that does not fit.
-/

namespace Foundation
namespace Limbs

open Carry

/-- What an operation with a carry out of `size` values returns. -/
structure Splits (neg : Bool) (size : Nat) (x y : Int) (c : Bool) (r : Nat)
    (carry : Bool) : Prop where
  value_eq : value neg x y c = r + sign neg * (size * carry.toNat)
  lt : r < size

/-- Whether a sum reaches the size, or a difference is negative. -/
def Exceeds (neg : Bool) (size : Nat) (x y : Nat) (c : Bool) : Prop :=
  if neg then x < y + c.toNat else size ≤ x + y + c.toNat

instance (neg : Bool) (size x y : Nat) (c : Bool) :
    Decidable (Exceeds neg size x y c) :=
  inferInstanceAs (Decidable (if neg then _ else _))

theorem Splits.eq_emod {neg : Bool} {size r : Nat} {x y : Int} {c carry : Bool}
    (h : Splits neg size x y c r carry) :
    (r : Int) = value neg x y c % size := by
  have hlt := h.lt
  rw [h.value_eq, Int.mul_left_comm, Int.add_mul_emod_self_left]
  exact (Int.emod_eq_of_lt (by omega) (by omega)).symm

theorem Splits.carry_iff {neg : Bool} {size r x y : Nat} {c carry : Bool}
    (h : Splits neg size x y c r carry) :
    carry = true ↔ Exceeds neg size x y c := by
  have hvalue := h.value_eq
  have hlt := h.lt
  unfold Exceeds
  cases neg <;> cases carry <;> simp [value, sign] at hvalue ⊢ <;> omega

section Ripple

variable {D : Type} (val : D -> Nat) (base : Nat)

/-- The number the digits denote. -/
def number (xs : List D) : Nat := Nat.ofDigits base (xs.map val)

theorem number_cons (x : D) (xs : List D) :
    number val base (x :: xs) = val x + base * number val base xs := by
  simp [number, Nat.ofDigits_cons]

/-- One digit after the other, each with the carry of the one before. -/
def ripple (step : D -> D -> Bool -> D × Bool) :
    List D -> List D -> Bool -> List D × Bool
  | x :: xs, y :: ys, c =>
      let out := step x y c
      let rest := ripple step xs ys out.2
      (out.1 :: rest.1, rest.2)
  | _, _, c => ([], c)

/-- Digits of a long number are digits of the base. -/
structure Lawful (neg : Bool) (valid : D -> Prop)
    (step : D -> D -> Bool -> D × Bool) : Prop where
  keeps : forall {x y : D} (c : Bool), valid x -> valid y ->
    valid (step x y c).1
  splits : forall {x y : D} (c : Bool), valid x -> valid y ->
    Splits neg base (val x) (val y) c (val (step x y c).1) (step x y c).2

variable {val base} {neg : Bool} {valid : D -> Prop}
  {step : D -> D -> Bool -> D × Bool}

/-- A digit in front of two numbers. -/
theorem value_cons {x y r : Nat} {c carry : Bool} {A B : Int}
    (h : value neg x y c = r + sign neg * (base * carry.toNat)) :
    value neg (x + base * A) (y + base * B) c =
      r + base * value neg A B carry := by
  unfold value sign at *
  cases neg with
  | false =>
      simp only [Bool.false_eq_true, if_false] at *
      have hshift : (x : Int) + base * A + (y + base * B) + c.toNat =
          (x + y + c.toNat) + base * (A + B) := by
        ring
      rw [hshift, h]
      ring
  | true =>
      simp only [if_true] at *
      have hshift : (x : Int) + base * A - (y + base * B) - c.toNat =
          (x - y - c.toNat) + base * (A - B) := by
        ring
      rw [hshift, h]
      ring

theorem ripple_valid (hlaw : Lawful val base neg valid step) {xs ys : List D}
    (c : Bool) (hxs : forall x, x ∈ xs -> valid x)
    (hys : forall y, y ∈ ys -> valid y) (hlen : xs.length = ys.length) :
    (ripple step xs ys c).1.length = xs.length ∧
      forall r, r ∈ (ripple step xs ys c).1 -> valid r := by
  induction xs generalizing ys c with
  | nil =>
      simp [ripple]
  | cons x xs ih =>
      cases ys with
      | nil =>
          simp at hlen
      | cons y ys =>
          rw [List.forall_mem_cons] at hxs hys
          have hrest := ih (step x y c).2 hxs.2 hys.2 (by simpa using hlen)
          constructor
          · simp [ripple, hrest.1]
          · intro r hr
            rcases List.mem_cons.mp hr with hr | hr
            · rw [hr]
              exact hlaw.keeps c hxs.1 hys.1
            · exact hrest.2 r hr

theorem ripple_splits (hlaw : Lawful val base neg valid step)
    {xs ys : List D} (c : Bool) (hxs : forall x, x ∈ xs -> valid x)
    (hys : forall y, y ∈ ys -> valid y) (hlen : xs.length = ys.length) :
    Splits neg (base ^ xs.length) (number val base xs) (number val base ys) c
      (number val base (ripple step xs ys c).1) (ripple step xs ys c).2 := by
  induction xs generalizing ys c with
  | nil =>
      cases ys with
      | nil =>
          constructor
          · cases neg <;> cases c <;> simp [ripple, number, value, sign]
          · simp [ripple, number]
      | cons y ys =>
          simp at hlen
  | cons x xs ih =>
      cases ys with
      | nil =>
          simp at hlen
      | cons y ys =>
          rw [List.forall_mem_cons] at hxs hys
          have hdigit := hlaw.splits c hxs.1 hys.1
          have hrest := ih (step x y c).2 hxs.2 hys.2 (by simpa using hlen)
          have hvalue := value_cons (A := number val base xs)
            (B := number val base ys) hdigit.value_eq
          constructor
          · simp only [ripple, number_cons, List.length_cons]
            push_cast
            rw [hvalue, hrest.value_eq]
            push_cast
            ring
          · have hlt := hdigit.lt
            have hmul := Nat.mul_le_mul_left base hrest.lt
            simp only [ripple, number_cons, List.length_cons, pow_succ']
            rw [Nat.mul_succ] at hmul
            omega

end Ripple

/-!
## Machine words
-/

section Words

variable {n : Nat}

/-- One word of a sum with carry or a difference with borrow. -/
def word (neg : Bool) (x y : BitVec n) (c : Bool) : BitVec n × Bool :=
  (addSub neg x y c, carryOut neg x y c)

theorem lawful_word (neg : Bool) :
    Lawful BitVec.toNat (2 ^ n) neg (fun _ : BitVec n => True) (word neg) where
  keeps _ _ _ := trivial
  splits c _ _ := ⟨by exact_mod_cast value_eq neg _ _ c, BitVec.isLt _⟩

/-- The number the words denote when the last one counts as signed. -/
def signed : List (BitVec n) -> Int
  | [] => 0
  | [x] => x.toInt
  | x :: y :: xs => x.toNat + (2 ^ n : Nat) * signed (y :: xs)

/-- The sign of the last result and whether the last words overflow. -/
def lastSign (neg : Bool) : List (BitVec n) -> List (BitVec n) -> Bool ->
    Bool × Bool
  | [x], [y], c =>
      ((addSub neg x y c).msb,
        overflows (n - 1) (value neg x.toInt y.toInt c))
  | x :: xs, y :: ys, c => lastSign neg xs ys (carryOut neg x y c)
  | _, _, _ => (false, false)

theorem add_mul_neg_iff {r base : Nat} {v : Int} (h : r < base) :
    (r : Int) + base * v < 0 ↔ v < 0 := by
  constructor
  · intro hneg
    apply Int.not_le.mp
    intro hv
    have hmul := Int.mul_nonneg (Int.natCast_nonneg base) hv
    omega
  · intro hv
    have hmul : (base : Int) * v ≤ base * (-1) :=
      Int.mul_le_mul_of_nonneg_left (by omega) (by omega)
    omega

theorem overflows_add_mul {r m : Nat} {v : Int} (h : r < 2 ^ n) :
    overflows (n + m) (r + (2 ^ n : Nat) * v) = overflows m v := by
  have hlow := add_mul_neg_iff (v := v + (2 ^ m : Nat)) h
  have hhigh := add_mul_neg_iff (v := v - (2 ^ m : Nat)) h
  have hpow : ((2 ^ (n + m) : Nat) : Int) = (2 ^ n : Nat) * (2 ^ m : Nat) := by
    rw [pow_add]
    push_cast
    rfl
  unfold overflows
  rw [hpow, decide_eq_decide]
  rw [Int.mul_add] at hlow
  rw [Int.mul_sub] at hhigh
  generalize (2 ^ n : Nat) * v = a at *
  generalize ((2 ^ n : Nat) : Int) * (2 ^ m : Nat) = b at *
  omega

theorem lastSign_eq (neg : Bool) (hn : 0 < n) {xs ys : List (BitVec n)}
    (c : Bool) (hlen : xs.length = ys.length) (hne : xs ≠ []) :
    lastSign neg xs ys c =
      (decide (signed (ripple (word neg) xs ys c).1 < 0),
        overflows (n * xs.length - 1)
          (value neg (signed xs) (signed ys) c)) := by
  induction xs generalizing ys c with
  | nil =>
      exact absurd rfl hne
  | cons x xs ih =>
      cases ys with
      | nil =>
          simp at hlen
      | cons y ys =>
          cases xs with
          | nil =>
              have hys : ys = [] := by simpa using hlen
              subst hys
              simp [lastSign, ripple, word, signed, BitVec.msb_eq_toInt]
          | cons x' xs =>
              cases ys with
              | nil =>
                  simp at hlen
              | cons y' ys =>
                  have htail : (x' :: xs).length = (y' :: ys).length := by
                    simpa using hlen
                  have hrest := ih (carryOut neg x y c) htail (by simp)
                  have hvalue := value_cons (A := signed (x' :: xs))
                    (B := signed (y' :: ys)) (value_eq neg x y c)
                  have hwidth : n * (x :: x' :: xs).length - 1 =
                      n + (n * (x' :: xs).length - 1) := by
                    simp only [List.length_cons, Nat.mul_succ]
                    omega
                  rw [hwidth]
                  have hlt := (addSub neg x y c).isLt
                  simp only [lastSign, ripple, word, signed] at hrest ⊢
                  rw [hvalue, overflows_add_mul hlt, hrest]
                  exact Prod.ext
                    (decide_eq_decide.mpr (add_mul_neg_iff hlt).symm) rfl

end Words

end Limbs
end Foundation
