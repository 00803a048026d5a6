import S80x86.Rtl.Units
import S80x86.Sim.AluAgrees
import S80x86.Foundation.Overflow

/-!
# What the arithmetic flags say

The flags of a sum or difference in terms of the operands as numbers, for the
helper of the emulator and for the tasks of the core at once.
-/

open Foundation

namespace S80x86
namespace Sim

open Rtl.ALU Rtl.Flag

/-- Whether the number of ones in a byte is even. -/
def evenOnes (v : BitVec 8) : Bool :=
  (List.range 8).countP (fun i => v.getLsbD i) % 2 == 0

theorem not_xorReduce (v : BitVec 8) : (!xorReduce v) = evenOnes v := by
  revert v
  decide +kernel

/-- The flags of a sum with a carry or a difference with a borrow. -/
def sumFlags (neg : Bool) (w : OperandWidth) (x y : BitVec w.bits) (c : Bool) :
    ArithmeticFlags :=
  let r := Carry.addSub neg x y c
  { af := Carry.carryOut neg (x.setWidth 4) (y.setWidth 4) c
    cf := Carry.carryOut neg x y c
    sf := r.msb
    zf := r == 0
    pf := evenOnes (r.setWidth 8)
    of := Carry.overflows (w.bits - 1) (Carry.value neg x.toInt y.toInt c) }

section Meanings

variable (neg : Bool) (w : OperandWidth) (a b : BitVec 16) (c : Bool)

/-- Cutting the operands first does not change a carry. -/
theorem carryInto_setWidth {i n : Nat} (hi : i ≤ n) (hn : n ≤ 16) :
    Carry.carryInto neg i (a.setWidth n) (b.setWidth n) c =
      Carry.carryInto neg i a b c := by
  have hbit : forall (x : BitVec 16) (k : Nat), k < i ->
      (x.setWidth n).getLsbD k = x.getLsbD k := by
    intro x k hk
    have hkn : k < n := by omega
    simp [hkn]
  exact Carry.carryInto_congr c hi (by omega) (hbit a) (hbit b)

theorem rtlSum_setWidth {n : Nat} (hn : n ≤ 16) :
    ((rtlSum neg a b c).setWidth 16).setWidth n =
      Carry.addSub neg (a.setWidth n) (b.setWidth n) c := by
  apply BitVec.eq_of_getLsbD_eq
  intro k hk
  have hbit : forall x : BitVec 16, (x.setWidth n).getLsbD k = x.getLsbD k := by
    intro x
    simp [hk]
  rw [hbit, getLsbD_rtlSum neg a b c (by omega), Carry.getLsbD_addSub hk,
    hbit, hbit, carryInto_setWidth neg a b c (Nat.le_of_lt hk) hn]

theorem auxiliary_rtl :
    Bool.xor (Bool.xor (a.getLsbD 4) (b.getLsbD 4))
        (((rtlSum neg a b c).setWidth 16).getLsbD 4) =
      Carry.carryOut neg (a.setWidth 4) (b.setWidth 4) c := by
  unfold Carry.carryOut
  rw [getLsbD_rtlSum neg a b c (by omega),
    carryInto_setWidth neg a b c (Nat.le_refl 4) (by omega)]
  cases a.getLsbD 4 <;> cases b.getLsbD 4 <;> cases neg <;> simp

theorem carry_rtl_eq :
    (carryAndOut w.is8Bit (rtlSum neg a b c) a b).1 =
      Carry.carryOut neg (a.setWidth w.bits) (b.setWidth w.bits) c := by
  rw [carry_rtl, Carry.carryOut,
    carryInto_setWidth neg a b c (Nat.le_refl _) (bits_le w)]

theorem sign_rtl :
    pick w.is8Bit ((rtlSum neg a b c).setWidth 16) 7 15 =
      (Carry.addSub neg (a.setWidth w.bits) (b.setWidth w.bits) c).msb := by
  have hlt : w.bits - 1 < w.bits := by cases w <;> decide
  rw [pick_eq, BitVec.msb_eq_getLsbD_last,
    ← rtlSum_setWidth neg a b c (bits_le w), BitVec.getLsbD_setWidth]
  simp [hlt]

theorem zero_rtl :
    isZero w.is8Bit ((rtlSum neg a b c).setWidth 16) =
      (Carry.addSub neg (a.setWidth w.bits) (b.setWidth w.bits) c == 0) := by
  rw [← rtlSum_setWidth neg a b c (bits_le w)]
  cases w with
  | OP_WIDTH_8 =>
      show (low _ == 0#8) = _
      rw [low_eq_setWidth]
      rfl
  | OP_WIDTH_16 =>
      show (_ == 0#16) = (BitVec.setWidth 16 _ == 0#16)
      rw [BitVec.setWidth_eq]

theorem parity_rtl :
    (!xorReduce (low ((rtlSum neg a b c).setWidth 16))) =
      evenOnes ((Carry.addSub neg (a.setWidth w.bits) (b.setWidth w.bits)
        c).setWidth 8) := by
  have h8 : 8 ≤ w.bits := by cases w <;> decide
  rw [not_xorReduce, low_eq_setWidth,
    ← rtlSum_setWidth neg a b c (bits_le w), BitVec.setWidth_setWidth_of_le _ h8]

theorem overflow_rtl :
    rtlOverflow neg w.is8Bit a b ((rtlSum neg a b c).setWidth 16) =
      Carry.overflows (w.bits - 1)
        (Carry.value neg (a.setWidth w.bits).toInt (b.setWidth w.bits).toInt
          c) := by
  have hxor : forall n x y : Bool,
      Bool.xor (Bool.xor n x) (Bool.xor n y) = Bool.xor x y := by
    decide
  rw [← overflow_eq, hxor]
  cases w with
  | OP_WIDTH_8 =>
      rw [← carryInto_setWidth neg a b c (show 8 - 1 ≤ 8 by omega) (by omega),
        ← carryInto_setWidth neg a b c (Nat.le_refl 8) (by omega)]
      exact Carry.overflow_eq neg _ _ c
  | OP_WIDTH_16 =>
      rw [← carryInto_setWidth neg a b c (show 16 - 1 ≤ 16 by omega) (by omega),
        ← carryInto_setWidth neg a b c (Nat.le_refl 16) (by omega)]
      exact Carry.overflow_eq neg _ _ c

/-- The flags of the core are those of the operands as numbers. -/
theorem rtlFlags_eq :
    rtlFlags neg w.is8Bit a b c =
      sumFlags neg w (a.setWidth w.bits) (b.setWidth w.bits) c := by
  have h4 : forall x : BitVec 16,
      (x.setWidth w.bits).setWidth 4 = x.setWidth 4 := by
    intro x
    exact BitVec.setWidth_setWidth_of_le _ (by cases w <;> decide)
  unfold rtlFlags sumFlags
  simp only [auxiliary_rtl, carry_rtl_eq, sign_rtl, zero_rtl,
    parity_rtl neg w a b c, overflow_rtl, h4]

end Meanings

/-!
## Reading the flags
-/

theorem and_bit_bne (x : BitVec 16) {i : Nat} (hi : i < 16) :
    (x &&& 1#16 <<< i != 0#16) = x.getLsbD i := by
  rw [Bool.eq_iff_iff, bne_iff_ne]
  constructor
  · intro h
    by_contra hbit
    apply h
    apply BitVec.eq_of_getLsbD_eq
    intro k hk
    by_cases hki : k = i
    · subst hki
      simp [hbit]
    · have hne : ¬ k - i = 0 ∨ k < i := by omega
      rcases hne with hne | hne
      · simp [hne]
      · simp [hne]
  · intro hbit h
    have hk : (x &&& 1#16 <<< i).getLsbD i = (0#16).getLsbD i := by rw [h]
    rw [BitVec.getLsbD_and, hbit] at hk
    simp [hi] at hk

/-- The six flags of an arithmetic instruction, by their positions. -/
def isArithmetic (i : Nat) : Bool :=
  i == CF_IDX || i == PF_IDX || i == AF_IDX || i == ZF_IDX || i == SF_IDX ||
    i == OF_IDX

theorem getFlag_setFlags (r : RegisterFile) (v : BitVec 16) {i : Nat}
    (hi : isArithmetic i = true) :
    (r.setFlags v arithmeticFlags).getFlag (1#16 <<< i) = v.getLsbD i := by
  have hcases : i = 0 ∨ i = 2 ∨ i = 4 ∨ i = 6 ∨ i = 7 ∨ i = 11 := by
    simpa [isArithmetic, CF_IDX, PF_IDX, AF_IDX, ZF_IDX, SF_IDX, OF_IDX,
      or_assoc] using hi
  unfold RegisterFile.getFlag RegisterFile.setFlags
  dsimp only
  rw [and_bit_bne _ (by omega)]
  rcases hcases with rfl | rfl | rfl | rfl | rfl | rfl <;>
    simp [arithmeticFlags, Flag.reservedMask, Flag.validMask, Flag.stuckBits,
      Flag.CF, Flag.PF, Flag.AF, Flag.ZF, Flag.SF, Flag.OF, Flag.TF, Flag.IF,
      Flag.DF]

section Read

variable (f : ArithmeticFlags) (flags : BitVec 16)

theorem ArithmeticFlags.rtl_bits :
    (f.rtl flags).getLsbD CF_IDX = f.cf ∧ (f.rtl flags).getLsbD PF_IDX = f.pf ∧
      (f.rtl flags).getLsbD AF_IDX = f.af ∧
      (f.rtl flags).getLsbD ZF_IDX = f.zf ∧
      (f.rtl flags).getLsbD SF_IDX = f.sf ∧
      (f.rtl flags).getLsbD OF_IDX = f.of := by
  unfold rtl
  refine ⟨?_, ?_, ?_, ?_, ?_, ?_⟩ <;>
    simp only [getLsbD_setFlag (show CF_IDX < 16 by decide),
      getLsbD_setFlag (show PF_IDX < 16 by decide),
      getLsbD_setFlag (show AF_IDX < 16 by decide),
      getLsbD_setFlag (show ZF_IDX < 16 by decide),
      getLsbD_setFlag (show SF_IDX < 16 by decide),
      getLsbD_setFlag (show OF_IDX < 16 by decide)] <;>
    rfl

end Read

/-- The arithmetic flags a register file holds. -/
def RegisterFile.arithmetic (r : RegisterFile) : ArithmeticFlags :=
  { af := r.getFlag Flag.AF
    cf := r.getFlag Flag.CF
    sf := r.getFlag Flag.SF
    zf := r.getFlag Flag.ZF
    pf := r.getFlag Flag.PF
    of := r.getFlag Flag.OF }

theorem arithmetic_setFlags (r : RegisterFile) (f : ArithmeticFlags)
    (flags : BitVec 16) :
    (r.setFlags (f.rtl flags) arithmeticFlags).arithmetic = f := by
  obtain ⟨hcf, hpf, haf, hzf, hsf, hof⟩ := f.rtl_bits flags
  have hbit : forall i, isArithmetic i = true ->
      (r.setFlags (f.rtl flags) arithmeticFlags).getFlag (1#16 <<< i) =
        (f.rtl flags).getLsbD i :=
    fun i hi => getFlag_setFlags r (f.rtl flags) hi
  have hCF := (hbit CF_IDX (by decide)).trans hcf
  have hPF := (hbit PF_IDX (by decide)).trans hpf
  have hAF := (hbit AF_IDX (by decide)).trans haf
  have hZF := (hbit ZF_IDX (by decide)).trans hzf
  have hSF := (hbit SF_IDX (by decide)).trans hsf
  have hOF := (hbit OF_IDX (by decide)).trans hof
  unfold RegisterFile.arithmetic
  rw [show Flag.CF = 1#16 <<< CF_IDX by decide,
    show Flag.PF = 1#16 <<< PF_IDX by decide,
    show Flag.AF = 1#16 <<< AF_IDX by decide,
    show Flag.ZF = 1#16 <<< ZF_IDX by decide,
    show Flag.SF = 1#16 <<< SF_IDX by decide,
    show Flag.OF = 1#16 <<< OF_IDX by decide, hCF, hPF, hAF, hZF, hSF, hOF]

theorem arithmetic_congr {r r' : RegisterFile} (h : r.flags = r'.flags) :
    r.arithmetic = r'.arithmetic := by
  unfold RegisterFile.arithmetic RegisterFile.getFlag
  rw [h]

/-!
## The flags of the core
-/

/-- The arithmetic flags the core holds. -/
def coreFlags (f : Rtl.Flags) : ArithmeticFlags :=
  { af := f.A, cf := f.C, sf := f.S, zf := f.Z, pf := f.P, of := f.O }

/-- The flags that the arithmetic instructions of the core update. -/
def arithmeticUpdates : List Rtl.UpdateFlags := [.CF, .PF, .AF, .ZF, .SF, .OF]

theorem coreFlags_step (a : ArithmeticFlags) (flags : BitVec 16)
    (f : Rtl.Flags) :
    coreFlags (Rtl.Flags.step arithmeticUpdates (a.rtl flags) f) = a := by
  obtain ⟨hcf, hpf, haf, hzf, hsf, hof⟩ := a.rtl_bits flags
  have hmem : forall u, arithmeticUpdates.contains u =
      (u != .TF && u != .IF && u != .DF) := by
    intro u
    cases u <;> rfl
  unfold coreFlags Rtl.Flags.step
  simp only [hmem, hcf, hpf, haf, hzf, hsf, hof]
  rfl

theorem coreFlags_flagsOut (f : Rtl.Flags) :
    coreFlags f =
      { af := f.flagsOut.getLsbD AF_IDX, cf := f.flagsOut.getLsbD CF_IDX
        sf := f.flagsOut.getLsbD SF_IDX, zf := f.flagsOut.getLsbD ZF_IDX
        pf := f.flagsOut.getLsbD PF_IDX
        of := f.flagsOut.getLsbD OF_IDX } := by
  unfold Rtl.Flags.flagsOut
  simp only [BitVec.getLsbD_append]
  simp [coreFlags, CF_IDX, PF_IDX, AF_IDX, ZF_IDX, SF_IDX, OF_IDX]

end Sim
end S80x86
