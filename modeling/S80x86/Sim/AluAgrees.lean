import S80x86.Sim.Emulate
import S80x86.Rtl.Alu
import S80x86.Rtl.Rom
import S80x86.Foundation.Carry
import Mathlib.Tactic.IntervalCases

/-!
# The emulator's arithmetic and the unit of the core

The emulator derives the flags by running an operation again on masked 32-bit
operands; the core derives them by equations on the bits of a 16-bit result.
Both come down to the carries of the operands.
-/

open Foundation

namespace S80x86
namespace Sim

open Rtl.ALU Rtl.Flag

/-!
## Flag words
-/

theorem getLsbD_setIf (c : Bool) (f flags : BitVec 16) (k : Nat) :
    (setIf c f flags).getLsbD k = (flags.getLsbD k || (c && f.getLsbD k)) := by
  cases c <;> simp [setIf]

/-- The six flags of an arithmetic result. -/
structure ArithmeticFlags where
  af : Bool
  cf : Bool
  sf : Bool
  zf : Bool
  pf : Bool
  of : Bool

open Sim.Flag in
/-- As the emulator sets them. -/
def ArithmeticFlags.emulated (f : ArithmeticFlags) (flags : BitVec 16) :
    BitVec 16 :=
  setIf f.of OF (setIf f.pf PF (setIf f.zf ZF (setIf f.sf SF (setIf f.cf CF
    (setIf f.af AF
      (flags &&& ~~~(AF ||| CF ||| OF ||| PF ||| SF ||| ZF)))))))

/-- As the core sets them. -/
def ArithmeticFlags.rtl (f : ArithmeticFlags) (flags : BitVec 16) :
    BitVec 16 :=
  setFlag ZF_IDX f.zf (setFlag SF_IDX f.sf (setFlag AF_IDX f.af
    (setFlag PF_IDX f.pf (setFlag OF_IDX f.of (setFlag CF_IDX f.cf flags)))))

theorem ArithmeticFlags.emulated_eq_rtl (f : ArithmeticFlags)
    (flags : BitVec 16) : f.emulated flags = f.rtl flags := by
  apply BitVec.eq_of_getLsbD_eq
  intro k hk
  unfold emulated rtl
  simp only [getLsbD_setIf, getLsbD_setFlag hk, BitVec.getLsbD_and,
    BitVec.getLsbD_not]
  interval_cases k <;>
    simp [Flag.AF, Flag.CF, Flag.OF, Flag.PF, Flag.SF, Flag.ZF, AF_IDX,
      CF_IDX, OF_IDX, PF_IDX, SF_IDX, ZF_IDX]

/-!
## Sums and differences
-/

theorem and_CF_bne (flags : BitVec 16) :
    (flags &&& Flag.CF != 0#16) = flags.getLsbD 0 := by
  have hand : flags &&& Flag.CF = (BitVec.ofBool (flags.getLsbD 0)).setWidth 16 :=
    BitVec.and_one_eq_setWidth_ofBool_getLsbD
  rw [hand]
  cases flags.getLsbD 0 <;> rfl

/-- The closures the emulator passes to its helper. -/
def aluOf (neg : Bool) : AluOp := fun a b c =>
  if neg then a - b - c else a + b + c

theorem aluResult_aluOf (T : IntType) (neg : Bool) (flags : BitVec 16)
    (v1 v2 : BitVec 32) (c : Bool) :
    aluResult T flags v1 v2 ((BitVec.ofBool c).setWidth 32) (aluOf neg) =
      let sum (x y : BitVec 32) := Carry.addSub neg x y c
      let below (x : BitVec 32) := x &&& ~~~(1#32 <<< (T.bits - 1))
      let cf := (sum v1 v2).getLsbD T.bits
      (ArithmeticFlags.emulated
        { af := (sum (v1 &&& 0xf#32) (v2 &&& 0xf#32)).getLsbD 4
          cf := cf
          sf := (sum v1 v2).getLsbD (T.bits - 1)
          zf := sum v1 v2 &&& T.minusOne == 0#32
          pf := !builtinParity (sum v1 v2 &&& 0xff#32)
          of := Bool.xor ((sum (below v1) (below v2)).getLsbD (T.bits - 1)) cf }
        flags, (sum v1 v2).setWidth T.bits) := by
  have hop : forall x y : BitVec 32,
      aluOf neg x y ((BitVec.ofBool c).setWidth 32) = Carry.addSub neg x y c :=
    fun x y => rfl
  unfold aluResult ArithmeticFlags.emulated
  simp only [hop, and_CF_bne, getLsbD_setIf, BitVec.getLsbD_and,
    BitVec.getLsbD_not]
  simp [Flag.AF, Flag.CF, Flag.SF, Flag.PF, Flag.ZF, Flag.OF]

/-- The output of the core for a sum or difference. -/
def rtlSum (neg : Bool) (a b : BitVec 16) (c : Bool) : BitVec 17 :=
  Carry.addSub neg (a.setWidth 17) (b.setWidth 17) c

def rtlOverflow (neg is8Bit : Bool) (a b out : BitVec 16) : Bool :=
  if neg then differenceOverflow is8Bit a b out else sumOverflow is8Bit a b out

/-- The flags of the core for a sum or difference. -/
def rtlFlags (neg is8Bit : Bool) (a b : BitVec 16) (c : Bool) :
    ArithmeticFlags :=
  let wide := rtlSum neg a b c
  let out := wide.setWidth 16
  { af := Bool.xor (Bool.xor (a.getLsbD 4) (b.getLsbD 4)) (out.getLsbD 4)
    cf := (carryAndOut is8Bit wide a b).1
    sf := pick is8Bit out 7 15
    zf := isZero is8Bit out
    pf := !xorReduce (low out)
    of := rtlOverflow neg is8Bit a b out }

/-- What the task for a sum or difference puts out. -/
def rtlResult (neg is8Bit : Bool) (a b flags : BitVec 16) (c : Bool) :
    BitVec 16 × BitVec 16 :=
  ((rtlSum neg a b c).setWidth 16, (rtlFlags neg is8Bit a b c).rtl flags)

theorem doAdd_eq (is8Bit : Bool) (a b flags : BitVec 16) :
    Rtl.ALU.doAdd is8Bit a b flags = rtlResult false is8Bit a b flags false := by
  have hwide : rtlSum false a b false = a.setWidth 17 + b.setWidth 17 :=
    BitVec.add_zero _
  simp only [Rtl.ALU.doAdd, rtlResult, rtlFlags, hwide]
  rfl

theorem doAdc_eq (is8Bit : Bool) (a b flags : BitVec 16) :
    Rtl.ALU.doAdc is8Bit a b flags =
      rtlResult false is8Bit a b flags (flags.getLsbD CF_IDX) := by
  have hwide : rtlSum false a b (flags.getLsbD CF_IDX) =
      a.setWidth 17 + b.setWidth 17 + carryIn flags :=
    rfl
  simp only [Rtl.ALU.doAdc, rtlResult, rtlFlags, hwide]
  rfl

theorem doSub_eq (is8Bit : Bool) (a b flags : BitVec 16) :
    Rtl.ALU.doSub is8Bit a b flags = rtlResult true is8Bit a b flags false := by
  have hwide : rtlSum true a b false = a.setWidth 17 - b.setWidth 17 :=
    BitVec.sub_zero _
  simp only [Rtl.ALU.doSub, rtlResult, rtlFlags, hwide]
  rfl

theorem doSbb_eq (is8Bit : Bool) (a b flags : BitVec 16) :
    Rtl.ALU.doSbb is8Bit a b flags =
      rtlResult true is8Bit a b flags (flags.getLsbD CF_IDX) := by
  have hwide : rtlSum true a b (flags.getLsbD CF_IDX) =
      a.setWidth 17 - b.setWidth 17 - carryIn flags :=
    rfl
  simp only [Rtl.ALU.doSbb, rtlResult, rtlFlags, hwide]
  rfl

def OperandWidth.is8Bit : OperandWidth -> Bool
  | .OP_WIDTH_8 => true
  | .OP_WIDTH_16 => false

/-- An operand as the helpers of the emulator take it. -/
def widened (w : OperandWidth) (a : BitVec 16) : BitVec 32 :=
  ((a.setWidth w.bits).setWidth 16).setWidth 32

section Bits

variable (neg : Bool) (w : OperandWidth) (a b : BitVec 16) (c : Bool)

theorem bits_le (w : OperandWidth) : w.bits ≤ 16 := by
  cases w <;> decide

theorem getLsbD_widened (k : Nat) :
    (widened w a).getLsbD k = (decide (k < w.bits) && a.getLsbD k) := by
  have hw := bits_le w
  unfold widened
  simp only [BitVec.getLsbD_setWidth]
  by_cases hk : k < w.bits
  · have h16 : k < 16 := by omega
    have h32 : k < 32 := by omega
    simp [hk, h16, h32]
  · simp [hk]

/-- A bit of the core's output. -/
theorem getLsbD_rtlSum {k : Nat} (hk : k < 16) :
    ((rtlSum neg a b c).setWidth 16).getLsbD k =
      Bool.xor (a.getLsbD k)
        (Bool.xor (Bool.xor (b.getLsbD k) neg)
          (Carry.carryInto neg k a b c)) := by
  have h17 : k < 17 := by omega
  have hbit : forall (x : BitVec 16) (j : Nat), j < 17 ->
      (x.setWidth 17).getLsbD j = x.getLsbD j := by
    intro x j hj
    rw [BitVec.getLsbD_setWidth]
    simp [hj]
  rw [BitVec.getLsbD_setWidth]
  unfold rtlSum
  rw [Carry.getLsbD_addSub_congr c h17 (Nat.le_of_lt hk)
    (fun j hj => hbit a j (by omega)) (fun j hj => hbit b j (by omega)),
    hbit a k h17, hbit b k h17]
  simp [hk]

/-- A bit of a sum of the emulator, on operands that are the core's up to the
operand width, or up to that bit. -/
theorem getLsbD_emulated {x y : BitVec 32} {k : Nat} (hk : k ≤ w.bits)
    (hx : forall j, j < k -> x.getLsbD j = a.getLsbD j)
    (hy : forall j, j < k -> y.getLsbD j = b.getLsbD j) :
    (Carry.addSub neg x y c).getLsbD k =
      Bool.xor (x.getLsbD k)
        (Bool.xor (Bool.xor (y.getLsbD k) neg)
          (Carry.carryInto neg k a b c)) := by
  have hw := bits_le w
  exact Carry.getLsbD_addSub_congr c (by omega) (by omega) hx hy

/-- The low bits of the two results are the same. -/
theorem getLsbD_sum {k : Nat} (hk : k < w.bits) :
    (Carry.addSub neg (widened w a) (widened w b) c).getLsbD k =
      ((rtlSum neg a b c).setWidth 16).getLsbD k := by
  have hw := bits_le w
  have hbit : forall (x : BitVec 16) (j : Nat), j < w.bits ->
      (widened w x).getLsbD j = x.getLsbD j := by
    intro x j hj
    rw [getLsbD_widened]
    simp [hj]
  rw [getLsbD_emulated neg w a b c (Nat.le_of_lt hk)
    (fun j hj => hbit a j (by omega)) (fun j hj => hbit b j (by omega)),
    hbit a k hk, hbit b k hk, getLsbD_rtlSum neg a b c (by omega)]

theorem sum_setWidth {n : Nat} (hn : n ≤ w.bits) :
    (Carry.addSub neg (widened w a) (widened w b) c).setWidth n =
      ((rtlSum neg a b c).setWidth 16).setWidth n := by
  apply BitVec.eq_of_getLsbD_eq
  intro k hk
  rw [BitVec.getLsbD_setWidth, BitVec.getLsbD_setWidth,
    getLsbD_sum neg w a b c (by omega)]

theorem and_allOnes (n : Nat) (x : BitVec 32) :
    x &&& (BitVec.allOnes n).setWidth 32 = (x.setWidth n).setWidth 32 := by
  apply BitVec.eq_of_getLsbD_eq
  intro k hk
  by_cases hn : k < n
  · simp [hk, hn]
  · simp [hn]

theorem builtinParity_byte (x : BitVec 8) :
    builtinParity (x.setWidth 32) = xorReduce x := by
  revert x
  decide +kernel

theorem low_eq_setWidth (x : BitVec 16) : low x = x.setWidth 8 := by
  apply BitVec.eq_of_getLsbD_eq
  intro k hk
  simp [low, hk]

theorem auxiliary_eq :
    (Carry.addSub neg (widened w a &&& 0xf#32) (widened w b &&& 0xf#32)
      c).getLsbD 4 =
      Bool.xor (Bool.xor (a.getLsbD 4) (b.getLsbD 4))
        (((rtlSum neg a b c).setWidth 16).getLsbD 4) := by
  have h4 : 4 ≤ w.bits := by cases w <;> decide
  have hlow : forall (x : BitVec 16) (j : Nat), j < 4 ->
      (widened w x &&& 0xf#32).getLsbD j = x.getLsbD j := by
    intro x j hj
    have hjw : j < w.bits := by omega
    rw [BitVec.getLsbD_and, getLsbD_widened]
    interval_cases j <;> simp [hjw]
  have htop : forall x : BitVec 16, (widened w x &&& 0xf#32).getLsbD 4 = false := by
    intro x
    rw [BitVec.getLsbD_and]
    simp
  rw [getLsbD_emulated neg w a b c h4 (hlow a) (hlow b), htop, htop,
    getLsbD_rtlSum neg a b c (by omega)]
  cases a.getLsbD 4 <;> cases b.getLsbD 4 <;> cases neg <;> simp

/-- The carry out of the operand width. -/
theorem carry_emulated :
    (Carry.addSub neg (widened w a) (widened w b) c).getLsbD w.bits =
      Bool.xor neg (Carry.carryInto neg w.bits a b c) := by
  have hbit : forall (x : BitVec 16) (j : Nat), j < w.bits ->
      (widened w x).getLsbD j = x.getLsbD j := by
    intro x j hj
    rw [getLsbD_widened]
    simp [hj]
  have htop : forall x : BitVec 16, (widened w x).getLsbD w.bits = false := by
    intro x
    rw [getLsbD_widened]
    simp
  rw [getLsbD_emulated neg w a b c (Nat.le_refl _) (hbit a) (hbit b), htop,
    htop]
  simp

theorem carry_rtl :
    (carryAndOut w.is8Bit (rtlSum neg a b c) a b).1 =
      Bool.xor neg (Carry.carryInto neg w.bits a b c) := by
  cases w with
  | OP_WIDTH_8 =>
      show carry8 a b ((rtlSum neg a b c).setWidth 16) = _
      unfold carry8
      rw [getLsbD_rtlSum neg a b c (by omega)]
      show _ = Bool.xor neg (Carry.carryInto neg 8 a b c)
      cases a.getLsbD 8 <;> cases b.getLsbD 8 <;> cases neg <;> simp
  | OP_WIDTH_16 =>
      show (rtlSum neg a b c).getLsbD 16 =
        Bool.xor neg (Carry.carryInto neg 16 a b c)
      have hbit : forall (x : BitVec 16) (j : Nat), j < 16 ->
          (x.setWidth 17).getLsbD j = x.getLsbD j := by
        intro x j hj
        have h17 : j < 17 := by omega
        rw [BitVec.getLsbD_setWidth]
        simp [h17]
      unfold rtlSum
      rw [Carry.getLsbD_addSub_congr c (by omega) (Nat.le_refl 16) (hbit a)
        (hbit b)]
      simp

/-- The carry into the sign, found by clearing the signs first. -/
theorem carryIn_emulated :
    (Carry.addSub neg (widened w a &&& ~~~(1#32 <<< (w.bits - 1)))
      (widened w b &&& ~~~(1#32 <<< (w.bits - 1))) c).getLsbD (w.bits - 1) =
      Bool.xor neg (Carry.carryInto neg (w.bits - 1) a b c) := by
  have hw := bits_le w
  have hpos : 0 < w.bits := by cases w <;> decide
  have hbit : forall (x : BitVec 16) (j : Nat), j < w.bits - 1 ->
      (widened w x &&& ~~~(1#32 <<< (w.bits - 1))).getLsbD j =
        x.getLsbD j := by
    intro x j hj
    have hjw : j < w.bits := by omega
    have h32 : j < 32 := by omega
    rw [BitVec.getLsbD_and, getLsbD_widened]
    simp [hjw, h32, hj]
  have htop : forall x : BitVec 16,
      (widened w x &&& ~~~(1#32 <<< (w.bits - 1))).getLsbD (w.bits - 1) =
        false := by
    intro x
    have h32 : w.bits - 1 < 32 := by omega
    rw [BitVec.getLsbD_and]
    simp [h32]
  rw [getLsbD_emulated neg w a b c (by omega) (hbit a) (hbit b), htop, htop]
  simp

theorem pick_eq (x : BitVec 16) :
    pick w.is8Bit x 7 15 = x.getLsbD (w.bits - 1) := by
  cases w <;> rfl

theorem overflow_eq :
    Bool.xor (Bool.xor neg (Carry.carryInto neg (w.bits - 1) a b c))
        (Bool.xor neg (Carry.carryInto neg w.bits a b c)) =
      rtlOverflow neg w.is8Bit a b ((rtlSum neg a b c).setWidth 16) := by
  have hw := bits_le w
  have hpos : 0 < w.bits := by cases w <;> decide
  have hsign : w.bits - 1 < 16 := by omega
  have hsucc : w.bits = w.bits - 1 + 1 := by omega
  have hcarry := Carry.carryInto_succ neg hsign a b c
  rw [<- hsucc] at hcarry
  rw [hcarry]
  unfold rtlOverflow differenceOverflow sumOverflow
  rw [pick_eq, pick_eq, pick_eq, getLsbD_rtlSum neg a b c hsign]
  generalize a.getLsbD (w.bits - 1) = x
  generalize b.getLsbD (w.bits - 1) = y
  generalize Carry.carryInto neg (w.bits - 1) a b c = k
  clear hcarry hsucc
  revert x y k neg
  decide

theorem zero_eq :
    (Carry.addSub neg (widened w a) (widened w b) c &&& w.unsigned.minusOne ==
        0#32) =
      isZero w.is8Bit ((rtlSum neg a b c).setWidth 16) := by
  have hzero : forall {n : Nat} (x : BitVec n), n ≤ 32 ->
      (x.setWidth 32 == 0#32) = (x == 0#n) := by
    intro n x hn
    rw [Bool.eq_iff_iff, beq_iff_eq, beq_iff_eq]
    constructor
    · intro h
      have hback := congrArg (BitVec.setWidth n) h
      rw [BitVec.setWidth_setWidth_of_le x hn, BitVec.setWidth_eq] at hback
      rw [hback]
      simp
    · rintro rfl
      simp
  cases w with
  | OP_WIDTH_8 =>
      have hmask := and_allOnes 8
        (Carry.addSub neg (widened .OP_WIDTH_8 a) (widened .OP_WIDTH_8 b) c)
      show (_ &&& (BitVec.allOnes 8).setWidth 32 == 0#32) = (low _ == 0#8)
      rw [hmask, hzero _ (by omega), sum_setWidth neg _ a b c (Nat.le_refl 8),
        low_eq_setWidth]
  | OP_WIDTH_16 =>
      have hmask := and_allOnes 16
        (Carry.addSub neg (widened .OP_WIDTH_16 a) (widened .OP_WIDTH_16 b) c)
      show (_ &&& (BitVec.allOnes 16).setWidth 32 == 0#32) = (_ == 0#16)
      rw [hmask, hzero _ (by omega), sum_setWidth neg _ a b c (Nat.le_refl 16),
        BitVec.setWidth_eq]

theorem parity_eq :
    builtinParity
        (Carry.addSub neg (widened w a) (widened w b) c &&& 0xff#32) =
      xorReduce (low ((rtlSum neg a b c).setWidth 16)) := by
  have h8 : 8 ≤ w.bits := by cases w <;> decide
  have hmask := and_allOnes 8 (Carry.addSub neg (widened w a) (widened w b) c)
  show builtinParity (_ &&& (BitVec.allOnes 8).setWidth 32) = _
  rw [hmask, builtinParity_byte, sum_setWidth neg w a b c h8, low_eq_setWidth]

/-- The helper of the emulator computes the result and the flags of the core,
whatever the upper bytes on the buses are. -/
theorem aluResult_eq_rtl (flags : BitVec 16) :
    aluResult w.unsigned flags (widened w a) (widened w b)
        ((BitVec.ofBool c).setWidth 32) (aluOf neg) =
      ((rtlResult neg w.is8Bit a b flags c).2,
        (rtlResult neg w.is8Bit a b flags c).1.setWidth w.unsigned.bits) := by
  have hbits : w.unsigned.bits = w.bits := by cases w <;> rfl
  rw [aluResult_aluOf]
  dsimp only
  rw [ArithmeticFlags.emulated_eq_rtl, hbits, auxiliary_eq, carry_emulated,
    getLsbD_sum neg w a b c (by cases w <;> decide), zero_eq, parity_eq,
    carryIn_emulated, overflow_eq, sum_setWidth neg w a b c (Nat.le_refl _)]
  unfold rtlResult rtlFlags
  dsimp only
  rw [carry_rtl, pick_eq]

end Bits

/-!
## Handlers with the arithmetic of the core
-/

open Foundation.Effect

variable {W : Type}

/-- An operand on a bus, under some upper byte if it is a byte. -/
def onBus (upper : BitVec 8) : (w : OperandWidth) -> BitVec w.bits -> BitVec 16
  | .OP_WIDTH_8, v => upper ++ v
  | .OP_WIDTH_16, v => v

/-- The arithmetic unit of the core on two operands and the flags. -/
def unit (op : Rtl.ALUOp) (w : OperandWidth) (upperA upperB : BitVec 8)
    (v1 v2 : BitVec w.bits) (flags : BitVec 16) : Rtl.ALU.Output :=
  Rtl.ALU.run
    { a := onBus upperA w v1
      b := onBus upperB w v2
      is8Bit := w.is8Bit
      op := op
      flagsIn := flags
      multibitShift := false
      shiftCount := 0#5 }

/-- A two-operand operation of the emulator that asks the core's unit. -/
@[reducible]
def viaUnit (op : Rtl.ALUOp) (upperA upperB : BitVec 8) (w : OperandWidth) :
    Alu W w := fun v1 v2 => do
  let flags ← getFlags
  let out := unit op w upperA upperB v1 v2 flags
  return (out.flagsOut, out.out.setWidth w.bits)

section Unit

variable (upperA upperB : BitVec 8) (w : OperandWidth)

theorem widened_onBus (upper : BitVec 8) (v : BitVec w.bits) :
    widened w (onBus upper w v) = (v.setWidth 16).setWidth 32 := by
  unfold widened
  cases w with
  | OP_WIDTH_8 =>
      have hlow : ((upper ++ v : BitVec 16)).setWidth 8 = v := by
        apply BitVec.eq_of_getLsbD_eq
        intro k hk
        simp [BitVec.getLsbD_append, hk]
      exact congrArg (fun x : BitVec 8 => (x.setWidth 16).setWidth 32) hlow
  | OP_WIDTH_16 =>
      have hsame : (v : BitVec 16).setWidth 16 = v := BitVec.setWidth_eq v
      exact congrArg (fun x : BitVec 16 => (x.setWidth 16).setWidth 32) hsame

/-- One operation of the emulator is one task of the core. -/
theorem doUnsigned_eq (neg : Bool) (v1 v2 : BitVec w.bits) (c : Bool) :
    (doUnsigned w (v1.setWidth 16) (v2.setWidth 16) c (aluOf neg) : EmuM W _) =
      do
        let flags ← getFlags
        let out := rtlResult neg w.is8Bit (onBus upperA w v1)
          (onBus upperB w v2) flags c
        return (out.2, out.1.setWidth w.bits) := by
  have hresult := aluResult_eq_rtl neg w (onBus upperA w v1)
    (onBus upperB w v2) c
  simp only [widened_onBus] at hresult
  have hback : forall x : BitVec 16,
      (x.setWidth w.unsigned.bits).setWidth w.bits = x.setWidth w.bits := by
    intro x
    cases w <;> exact BitVec.setWidth_eq _
  unfold doUnsigned doAlu
  simp only [bind_assoc, pure_bind, hresult, hback]

/-- An operation of the unit that is one task on the buses. -/
theorem viaUnit_eq {op : Rtl.ALUOp}
    {t : Bool -> BitVec 16 -> BitVec 16 -> BitVec 16 ->
      BitVec 16 × BitVec 16}
    (hrun : forall is8Bit a b flags multibit count,
      Rtl.ALU.run
        { a := a, b := b, is8Bit := is8Bit, op := op, flagsIn := flags
          multibitShift := multibit, shiftCount := count } =
        plain (t is8Bit a b flags)) :
    (viaUnit op upperA upperB w : Alu W w) = fun v1 v2 => do
      let flags ← getFlags
      let out := t w.is8Bit (onBus upperA w v1) (onBus upperB w v2) flags
      return (out.2, out.1.setWidth w.bits) := by
  have hback : forall x : BitVec 16,
      (x.setWidth 32).setWidth w.bits = x.setWidth w.bits := by
    intro x
    have hw := bits_le w
    rw [BitVec.setWidth_setWidth_of_le x (by omega)]
  funext v1 v2
  unfold viaUnit unit
  simp only [hrun, plain, hback]

theorem aluAdd_eq : (aluAdd w : Alu W w) = viaUnit .ADD upperA upperB w := by
  rw [viaUnit_eq upperA upperB w fun _ _ _ _ _ _ => rfl]
  funext v1 v2
  simp only [doAdd_eq]
  exact doUnsigned_eq upperA upperB w false v1 v2 false

theorem aluSub_eq : (aluSub w : Alu W w) = viaUnit .SUB upperA upperB w := by
  rw [viaUnit_eq upperA upperB w fun _ _ _ _ _ _ => rfl]
  funext v1 v2
  simp only [doSub_eq]
  exact doUnsigned_eq upperA upperB w true v1 v2 false

theorem aluAdc_eq : (aluAdc w : Alu W w) = viaUnit .ADC upperA upperB w := by
  rw [viaUnit_eq upperA upperB w fun _ _ _ _ _ _ => rfl]
  funext v1 v2
  have hcarry : (aluAdc w v1 v2 : EmuM W _) = getFlags >>= fun flags =>
      Sim.doAdd w (v1.setWidth 16) (v2.setWidth 16) (flags.getLsbD CF_IDX) := by
    simp only [aluAdc, carryFlag, bind_assoc, pure_bind, and_CF_bne]
    rfl
  rw [hcarry]
  simp only [doAdc_eq]
  exact (congrArg _ (funext fun flags =>
    doUnsigned_eq upperA upperB w false v1 v2 _)).trans (gets_gets _ _)

theorem aluSbb_eq : (aluSbb w : Alu W w) = viaUnit .SBB upperA upperB w := by
  rw [viaUnit_eq upperA upperB w fun _ _ _ _ _ _ => rfl]
  funext v1 v2
  have hcarry : (aluSbb w v1 v2 : EmuM W _) = getFlags >>= fun flags =>
      Sim.doSub w (v1.setWidth 16) (v2.setWidth 16) (flags.getLsbD CF_IDX) := by
    simp only [aluSbb, carryFlag, bind_assoc, pure_bind, and_CF_bne]
    rfl
  rw [hcarry]
  simp only [doSbb_eq]
  exact (congrArg _ (funext fun flags =>
    doUnsigned_eq upperA upperB w true v1 v2 _)).trans (gets_gets _ _)

/-- The reversed operations of the core swap the buses. -/
theorem viaUnit_SUBREV : (viaUnit .SUBREV upperA upperB w : Alu W w) =
    swapped (viaUnit .SUB upperB upperA w) := by
  rw [viaUnit_eq upperA upperB w
      (t := fun is8Bit a b flags => Rtl.ALU.doSub is8Bit b a flags)
      fun _ _ _ _ _ _ => rfl,
    viaUnit_eq upperB upperA w fun _ _ _ _ _ _ => rfl]

theorem viaUnit_SBBREV : (viaUnit .SBBREV upperA upperB w : Alu W w) =
    swapped (viaUnit .SBB upperB upperA w) := by
  rw [viaUnit_eq upperA upperB w
      (t := fun is8Bit a b flags => Rtl.ALU.doSbb is8Bit b a flags)
      fun _ _ _ _ _ _ => rfl,
    viaUnit_eq upperB upperA w fun _ _ _ _ _ _ => rfl]

end Unit

/-!
## Products
-/

/-- The product of a byte and `AL`, by the unit of the core. -/
@[reducible]
def byteProduct (op : Rtl.ALUOp) (upperA upperB : BitVec 8) (v1 : BitVec 8)
    (flags : BitVec 16) : EmuM W Unit := do
  let v2 ← get .AL
  let out := unit op .OP_WIDTH_8 upperA upperB v1 (v2.setWidth 8) flags
  set .AX (out.out.setWidth 16)
  setFlags out.flagsOut mulFlags

/-- The product of a word and `AX`. -/
@[reducible]
def wordProduct (op : Rtl.ALUOp) (v1 flags : BitVec 16) : EmuM W Unit := do
  let v2 ← get .AX
  let out := unit op .OP_WIDTH_16 0#8 0#8 v1 v2 flags
  setDxAx out.out
  setFlags out.flagsOut mulFlags

/-- The product of a word and an immediate, to a register. -/
@[reducible]
def immediateProduct (v1 v2 flags : BitVec 16) : EmuM W Unit := do
  let out := unit .IMUL .OP_WIDTH_16 0#8 0#8 v1 v2 flags
  let dest ← reg
  set dest (out.out.setWidth 16)
  setFlags out.flagsOut mulFlags

theorem productFlags_eq (high : Bool) (flags : BitVec 16) :
    Sim.productFlags flags high = Rtl.ALU.productFlags high flags := by
  apply BitVec.eq_of_getLsbD_eq
  intro k hk
  unfold Sim.productFlags Rtl.ALU.productFlags
  simp only [getLsbD_setIf, getLsbD_setFlag hk, BitVec.getLsbD_and,
    BitVec.getLsbD_not]
  interval_cases k <;>
    simp [Flag.CF, Flag.OF, Flag.ZF, CF_IDX, OF_IDX, ZF_IDX]

/-- Only the flags of the mask matter. -/
theorem setFlags_productFlags (flags flags' : BitVec 16) (high : Bool) :
    (setFlags (Sim.productFlags flags high) mulFlags : EmuM W Unit) =
      setFlags (Sim.productFlags flags' high) mulFlags := by
  have hmask : Sim.productFlags flags high &&& mulFlags =
      Sim.productFlags flags' high &&& mulFlags := by
    apply BitVec.eq_of_getLsbD_eq
    intro k hk
    unfold Sim.productFlags mulFlags
    simp only [getLsbD_setIf, BitVec.getLsbD_and, BitVec.getLsbD_not]
    interval_cases k <;> simp [Flag.CF, Flag.OF, Flag.ZF]
  have hand : mulFlags &&& ~~~Flag.reservedMask &&& Flag.validMask = mulFlags := by
    decide
  unfold setFlags
  simp only [RegisterFile.setFlags, hand, hmask]

/-- The upper bits are clear under a mask or cut out. -/
theorem upper_eq_zero_iff {n m : Nat} (x : BitVec (n + m)) :
    x &&& (BitVec.allOnes m).setWidth (n + m) <<< n = 0#(n + m) ↔
      x.extractLsb' n m = 0#m := by
  constructor
  · intro h
    apply BitVec.eq_of_getLsbD_eq
    intro k hk
    have hbit := congrArg (fun v => v.getLsbD (n + k)) h
    have hlt : n + k < n + m := by omega
    simpa [hk, hlt] using hbit
  · intro h
    apply BitVec.eq_of_getLsbD_eq
    intro k hk
    by_cases hn : k < n
    · simp [hn]
    · have hbit := congrArg (fun v => v.getLsbD (k - n)) h
      have hlt : k - n < m := by omega
      have hsum : n + (k - n) = k := by omega
      simp only [BitVec.getLsbD_extractLsb', hlt, decide_true, Bool.true_and,
        hsum, BitVec.getLsbD_zero] at hbit
      rw [BitVec.getLsbD_and, hbit]
      simp

theorem high_byte_bne (x : BitVec 16) :
    (x &&& 0xff00#16 != 0#16) = (x.extractLsb' 8 8 != 0#8) := by
  have hiff := upper_eq_zero_iff (n := 8) (m := 8) x
  rw [Bool.eq_iff_iff, bne_iff_ne, bne_iff_ne]
  exact not_congr hiff

theorem high_word_bne (x : BitVec 32) :
    (x &&& 0xffff0000#32 != 0#32) = (x.extractLsb' 16 16 != 0#16) := by
  have hiff := upper_eq_zero_iff (n := 16) (m := 16) x
  rw [Bool.eq_iff_iff, bne_iff_ne, bne_iff_ne]
  exact not_congr hiff

theorem low_onBus (upper : BitVec 8) (v : BitVec 8) :
    low (onBus upper .OP_WIDTH_8 v) = v :=
  Bits.extractLsb'_low_append upper v

theorem doMul_bind (T : IntType) (v1 v2 : BitVec 32)
    (before : BitVec 16 -> BitVec 16) (k : BitVec T.bits -> EmuM W Unit)
    (high : BitVec T.bits -> Bool) (flags : BitVec 16) :
    (do
      let out ← doMul T v1 v2
      k out.2
      setFlags (Sim.productFlags (before out.1) (high out.2)) mulFlags) =
      (do
        k ((v1 * v2).setWidth T.bits)
        setFlags (Rtl.ALU.productFlags (high ((v1 * v2).setWidth T.bits)) flags)
          mulFlags) := by
  have hflags : forall old : BitVec 16,
      (setFlags (Sim.productFlags
        (before (aluResult T old v1 v2 0#32 fun a b _ => a * b).1)
        (high ((v1 * v2).setWidth T.bits))) mulFlags : EmuM W Unit) =
        setFlags (Rtl.ALU.productFlags (high ((v1 * v2).setWidth T.bits)) flags)
          mulFlags := by
    intro old
    rw [setFlags_productFlags _ flags, productFlags_eq]
  have hresult : forall old : BitVec 16,
      (aluResult T old v1 v2 0#32 fun a b _ => a * b).2 =
        (v1 * v2).setWidth T.bits :=
    fun old => rfl
  unfold doMul doAlu
  simp only [bind_assoc, pure_bind, hresult, hflags]
  rfl

theorem signExtend_mul_setWidth (x y : BitVec 8) :
    (x.signExtend 32 * y.signExtend 32).setWidth 16 =
      x.signExtend 16 * y.signExtend 16 := by
  have hcut : forall v : BitVec 8,
      (v.signExtend 32).setWidth 16 = v.signExtend 16 := by
    decide +kernel
  rw [BitVec.setWidth_mul _ _ (by omega), hcut, hcut]

theorem get_AL_bind (k : BitVec 16 -> EmuM W Unit) :
    (do
      let v ← get .AL
      k v) = (do
        let v ← get .AL
        k ((v.setWidth 8).setWidth 16)) := by
  have hlow : forall x : BitVec 16,
      ((x &&& 0x00ff#16).setWidth 8).setWidth 16 = x &&& 0x00ff#16 := by
    intro x
    apply BitVec.eq_of_getLsbD_eq
    intro i hi
    interval_cases i <;> simp
  have hget : forall e : Emulator W,
      k (((e.registers.get .AL).setWidth 8).setWidth 16) =
        k (e.registers.get .AL) := by
    intro e
    exact congrArg k (hlow _)
  funext r e
  show k (e.registers.get .AL) r e = k _ r e
  rw [hget]

section Products

variable (upperA upperB : BitVec 8)

/-- A byte product of the core. -/
def byteProductOf (isSigned : Bool) (v1 v2 : BitVec 8) : BitVec 16 :=
  if isSigned then v1.signExtend 16 * v2.signExtend 16
  else v1.setWidth 16 * v2.setWidth 16

def wordProductOf (isSigned : Bool) (v1 v2 : BitVec 16) : BitVec 32 :=
  if isSigned then v1.signExtend 32 * v2.signExtend 32
  else v1.setWidth 32 * v2.setWidth 32

def mulOp : Bool -> Rtl.ALUOp
  | false => .MUL
  | true => .IMUL

theorem unit_byte (isSigned : Bool) (v1 v2 : BitVec 8) (flags : BitVec 16) :
    unit (mulOp isSigned) .OP_WIDTH_8 upperA upperB v1 v2 flags =
      { out := (byteProductOf isSigned v1 v2).setWidth 32
        flagsOut := Rtl.ALU.productFlags
          (byteProductOf isSigned v1 v2 &&& 0xff00#16 != 0#16) flags
        busy := false } := by
  rw [high_byte_bne]
  cases isSigned with
  | false =>
      simp [unit, mulOp, Rtl.ALU.run, Rtl.ALU.doMul, OperandWidth.is8Bit,
        low_onBus, byteProductOf]
  | true =>
      simp [unit, mulOp, Rtl.ALU.run, Rtl.ALU.doMul, OperandWidth.is8Bit,
        low_onBus, byteProductOf]

theorem unit_word (isSigned : Bool) (v1 v2 : BitVec 16) (flags : BitVec 16) :
    unit (mulOp isSigned) .OP_WIDTH_16 upperA upperB v1 v2 flags =
      { out := wordProductOf isSigned v1 v2
        flagsOut := Rtl.ALU.productFlags
          (wordProductOf isSigned v1 v2 &&& 0xffff0000#32 != 0#32) flags
        busy := false } := by
  rw [high_word_bne]
  cases isSigned with
  | false =>
      simp [unit, mulOp, Rtl.ALU.run, Rtl.ALU.doMul, OperandWidth.is8Bit,
        onBus, wordProductOf]
  | true =>
      simp [unit, mulOp, Rtl.ALU.run, Rtl.ALU.doMul, OperandWidth.is8Bit,
        onBus, wordProductOf]

theorem getFlags_unused (m : EmuM W Unit) :
    m = (do
      let _ ← getFlags
      m) :=
  rfl

/-- A product of the emulator that is the byte product of the core. -/
theorem byteProduct_eq (isSigned : Bool) (v1 v2 : BitVec 8) (x : BitVec 16)
    (flags : BitVec 16) (hx : x = byteProductOf isSigned v1 v2) :
    (do
      set .AX x
      setFlags (Rtl.ALU.productFlags (x &&& 0xff00#16 != 0#16) flags)
        mulFlags : EmuM W Unit) =
      (do
        let out := unit (mulOp isSigned) .OP_WIDTH_8 upperA upperB v1 v2 flags
        set .AX (out.out.setWidth 16)
        setFlags out.flagsOut mulFlags) := by
  rw [unit_byte upperA upperB isSigned v1 v2 flags, hx]
  simp

theorem wordProduct_eq (isSigned : Bool) (v1 v2 : BitVec 16)
    (flags : BitVec 16) (k : BitVec 32 -> EmuM W Unit) (x : BitVec 32)
    (hx : x = wordProductOf isSigned v1 v2) :
    (do
      k x
      setFlags (Rtl.ALU.productFlags (x &&& 0xffff0000#32 != 0#32) flags)
        mulFlags : EmuM W Unit) =
      (do
        let out := unit (mulOp isSigned) .OP_WIDTH_16 0#8 0#8 v1 v2 flags
        k out.out
        setFlags out.flagsOut mulFlags) := by
  rw [unit_word 0#8 0#8 isSigned v1 v2 flags, hx]

theorem mulf6_eq : (mulf6 : EmuM W Unit) = (do
    let v1 ← readData .OP_WIDTH_8 false
    let flags ← getFlags
    byteProduct .MUL upperA upperB v1 flags) := by
  unfold mulf6 byteProduct
  refine congrArg _ (funext fun v1 => ?_)
  rw [get_AL_bind]
  refine (getFlags_unused _).trans (congrArg _ (funext fun flags =>
    congrArg _ (funext fun v2 => ?_)))
  have hproduct : (BitVec.setWidth 32 v1 *
      ((v2.setWidth 8).setWidth 16).setWidth 32).setWidth 16 =
      byteProductOf false v1 (v2.setWidth 8) := by
    rw [BitVec.setWidth_mul _ _ (by omega)]
    simp [byteProductOf]
  exact (doMul_bind .uint16_t _ _ id (set .AX)
    (fun x => x &&& 0xff00#16 != 0#16) flags).trans
      (byteProduct_eq upperA upperB false v1 _ _ flags hproduct)

theorem imulf6_eq : (imulf6 : EmuM W Unit) = (do
    let flags ← getFlags
    let v1 ← readData .OP_WIDTH_8 false
    byteProduct .IMUL upperA upperB v1 flags) := by
  unfold imulf6 byteProduct
  refine congrArg _ (funext fun flags => congrArg _ (funext fun v1 =>
    congrArg _ (funext fun v2 => ?_)))
  exact (doMul_bind .int16_t _ _ (fun _ => flags) (set .AX)
    (fun x => x &&& 0xff00#16 != 0#16) flags).trans
      (byteProduct_eq upperA upperB true v1 _ _ flags
        (signExtend_mul_setWidth v1 (v2.setWidth 8)))

end Products

theorem mulf7_eq : (mulf7 : EmuM W Unit) = (do
    let v1 ← readData .OP_WIDTH_16 false
    let flags ← getFlags
    wordProduct .MUL v1 flags) := by
  unfold mulf7 wordProduct
  refine congrArg _ (funext fun v1 => (getFlags_unused _).trans
    (congrArg _ (funext fun flags => congrArg _ (funext fun v2 => ?_))))
  exact (doMul_bind .uint32_t _ _ id setDxAx
    (fun x => x &&& 0xffff0000#32 != 0#32) flags).trans
      (wordProduct_eq false v1 v2 flags setDxAx _ (BitVec.setWidth_eq _))

theorem imulf7_eq : (imulf7 : EmuM W Unit) = (do
    let flags ← getFlags
    let v1 ← readData .OP_WIDTH_16 false
    wordProduct .IMUL v1 flags) := by
  unfold imulf7 wordProduct
  refine congrArg _ (funext fun flags => congrArg _ (funext fun v1 =>
    congrArg _ (funext fun v2 => ?_)))
  exact (doMul_bind .int32_t _ _ (fun _ => flags) setDxAx
    (fun x => x &&& 0xffff0000#32 != 0#32) flags).trans
      (wordProduct_eq true v1 v2 flags setDxAx _ (BitVec.setWidth_eq _))

/-- The low word goes to the register of the ModRM byte. -/
@[reducible]
def setReg (result : BitVec 32) : EmuM W Unit := do
  let dest ← reg
  set dest (result.setWidth 16)

theorem imulImmediate_eq (immediate : EmuM W (BitVec 16)) :
    imulImmediate immediate = (do
      setWidth .OP_WIDTH_16
      decode
      let flags ← getFlags
      let v1 ← readData .OP_WIDTH_16 false
      let v2 ← immediate
      immediateProduct v1 v2 flags) := by
  unfold imulImmediate immediateProduct
  refine congrArg _ (funext fun _ => congrArg _ (funext fun _ =>
    congrArg _ (funext fun flags => congrArg _ (funext fun v1 =>
    congrArg _ (funext fun v2 => ?_)))))
  have hproduct := (doMul_bind .int32_t (v1.signExtend 32) (v2.signExtend 32)
    (fun _ => flags) (setReg : BitVec 32 -> EmuM W Unit)
    (fun x => x &&& 0xffff0000#32 != 0#32) flags).trans
      (wordProduct_eq true v1 v2 flags setReg _ (BitVec.setWidth_eq _))
  simp only [bind_assoc] at hproduct
  simp only [bind_assoc]
  exact hproduct

/-!
## The instructions
-/

section Handlers

open OperandWidth

variable (upperA upperB : BitVec 8)

/-- The group of opcodes 80 to 83, its sums and differences by the core. -/
@[reducible]
def unitGroup (w : OperandWidth) (immediate : EmuM W (BitVec w.bits)) :
    EmuM W Unit := do
  setWidth w
  decode
  let v1 ← readData w false
  let v2 ← immediate
  let r ← rawReg
  let out ← (
    if r = 0#3 then viaUnit .ADD upperA upperB w v1 v2
    else if r = 2#3 then viaUnit .ADC upperA upperB w v1 v2
    else if r = 6#3 then aluXor w v1 v2
    else if r = 1#3 then aluOr w v1 v2
    else if r = 4#3 then aluAnd w v1 v2
    else if r = 3#3 then viaUnit .SBB upperA upperB w v1 v2
    else viaUnit .SUB upperA upperB w v1 v2)
  setFlags out.1
    (if r = 6#3 ∨ r = 1#3 ∨ r = 4#3 then arithmeticFlags &&& ~~~Flag.AF
    else arithmeticFlags)
  if r ≠ 7#3 then writeData w out.2 false

/-- The group of opcode F6, its products by the core. -/
@[reducible]
def unitF6 : EmuM W Unit := do
  setWidth .OP_WIDTH_8
  decode
  let r ← rawReg
  if r = 2#3 then notf6
  else if r = 3#3 then negf6
  else if r = 4#3 then
    let v1 ← readData .OP_WIDTH_8 false
    let flags ← getFlags
    byteProduct .MUL upperA upperB v1 flags
  else if r = 5#3 then
    let flags ← getFlags
    let v1 ← readData .OP_WIDTH_8 false
    byteProduct .IMUL upperA upperB v1 flags
  else if r = 0#3 ∨ r = 1#3 then testf6
  else if r = 6#3 then divf6
  else idivf6

@[reducible]
def unitF7 : EmuM W Unit := do
  setWidth .OP_WIDTH_16
  decode
  let r ← rawReg
  if r = 2#3 then notf7
  else if r = 3#3 then negf7
  else if r = 4#3 then
    let v1 ← readData .OP_WIDTH_16 false
    let flags ← getFlags
    wordProduct .MUL v1 flags
  else if r = 5#3 then
    let flags ← getFlags
    let v1 ← readData .OP_WIDTH_16 false
    wordProduct .IMUL v1 flags
  else if r = 0#3 ∨ r = 1#3 then testf7
  else if r = 6#3 then divf7
  else idivf7

@[reducible]
def unitImul (immediate : EmuM W (BitVec 16)) : EmuM W Unit := do
  setWidth .OP_WIDTH_16
  decode
  let flags ← getFlags
  let v1 ← readData .OP_WIDTH_16 false
  let v2 ← immediate
  immediateProduct v1 v2 flags

/-- One family of opcodes, in the order of its forms. -/
def familyHandlers (base : BitVec 8) (op reversed : Rtl.ALUOp) (store : Bool) :
    List (BitVec 8 × EmuM W Unit) :=
  let alu := fun (w : OperandWidth) =>
    (viaUnit op upperA upperB w : Alu W w)
  let toReg := fun (w : OperandWidth) =>
    (viaUnit reversed upperA upperB w : Alu W w)
  [
    (base, aluRmReg OP_WIDTH_8 (alu _) arithmeticFlags store),
    (base + 1#8, aluRmReg OP_WIDTH_16 (alu _) arithmeticFlags store),
    (base + 2#8, aluRegRm OP_WIDTH_8 (toReg _) arithmeticFlags store),
    (base + 3#8, aluRegRm OP_WIDTH_16 (toReg _) arithmeticFlags store),
    (base + 4#8, aluAcc OP_WIDTH_8 (alu _) arithmeticFlags store),
    (base + 5#8, aluAcc OP_WIDTH_16 (alu _) arithmeticFlags store)
  ]

/-- The handlers that add, subtract, compare or multiply, with the unit of the
core in the place of the emulator's helpers. -/
def unitHandlers : List (BitVec 8 × EmuM W Unit) :=
  familyHandlers upperA upperB 0x00#8 .ADD .ADD true ++
  familyHandlers upperA upperB 0x10#8 .ADC .ADC true ++
  familyHandlers upperA upperB 0x18#8 .SBB .SBBREV true ++
  familyHandlers upperA upperB 0x28#8 .SUB .SUBREV true ++
  familyHandlers upperA upperB 0x38#8 .SUB .SUBREV false ++
  [
    (0x80#8, unitGroup upperA upperB OP_WIDTH_8 (fetch OP_WIDTH_8)),
    (0x81#8, unitGroup upperA upperB OP_WIDTH_16 (fetch OP_WIDTH_16)),
    (0x82#8, unitGroup upperA upperB OP_WIDTH_8 (fetch OP_WIDTH_8)),
    (0x83#8, unitGroup upperA upperB OP_WIDTH_16 fetchSigned),
    (0xf6#8, unitF6 upperA upperB),
    (0xf7#8, unitF7),
    (0x69#8, unitImul fetch16bit),
    (0x6b#8, unitImul fetchSigned)
  ]

theorem aluGroup_eq (w : OperandWidth) (immediate : EmuM W (BitVec w.bits)) :
    aluGroup w immediate = unitGroup upperA upperB w immediate := by
  unfold aluGroup unitGroup
  rw [aluAdd_eq upperA upperB w, aluAdc_eq upperA upperB w,
    aluSbb_eq upperA upperB w, aluSub_eq upperA upperB w]

theorem negMulNotTestDivF6_eq :
    (negMulNotTestDivF6 : EmuM W Unit) = unitF6 upperA upperB := by
  unfold negMulNotTestDivF6 unitF6
  rw [mulf6_eq upperA upperB, imulf6_eq upperA upperB]

theorem negMulNotTestDivF7_eq : (negMulNotTestDivF7 : EmuM W Unit) = unitF7 := by
  unfold negMulNotTestDivF7 unitF7
  rw [mulf7_eq, imulf7_eq]

/-- The handlers of one family, when they use the operations of the core. -/
theorem familyHandlers_execute {base : BitVec 8} {op reversed : Rtl.ALUOp}
    {store : Bool} {alu toReg : (w : OperandWidth) -> Alu W w}
    (halu : forall w, alu w = viaUnit op upperA upperB w)
    (htoReg : forall w, toReg w = viaUnit reversed upperA upperB w)
    (hexecute : forall p, p ∈ [
      (base, aluRmReg OP_WIDTH_8 (alu _) arithmeticFlags store),
      (base + 1#8, aluRmReg OP_WIDTH_16 (alu _) arithmeticFlags store),
      (base + 2#8, aluRegRm OP_WIDTH_8 (toReg _) arithmeticFlags store),
      (base + 3#8, aluRegRm OP_WIDTH_16 (toReg _) arithmeticFlags store),
      (base + 4#8, aluAcc OP_WIDTH_8 (alu _) arithmeticFlags store),
      (base + 5#8, aluAcc OP_WIDTH_16 (alu _) arithmeticFlags store)] ->
      execute p.1 = p.2) :
    forall p, p ∈ familyHandlers upperA upperB base op reversed store ->
      execute p.1 = (p.2 : EmuM W Unit) := by
  unfold familyHandlers
  simp only [halu, htoReg] at hexecute
  exact hexecute

/-!
## The flags that change
-/

/-- The operations the handlers ask the unit for, each with the flags that
they take from it. -/
def unitMasks : List (Rtl.ALUOp × BitVec 16) :=
  [(.ADD, arithmeticFlags), (.ADC, arithmeticFlags), (.SBB, arithmeticFlags),
    (.SBBREV, arithmeticFlags), (.SUB, arithmeticFlags),
    (.SUBREV, arithmeticFlags), (.MUL, mulFlags), (.IMUL, mulFlags)]

/-- The bits of a list of flags to update. -/
def updateMask (flags : List Rtl.UpdateFlags) : BitVec 16 :=
  flags.foldr (fun u m => (match u with
    | .CF => Flag.CF
    | .PF => Flag.PF
    | .AF => Flag.AF
    | .ZF => Flag.ZF
    | .SF => Flag.SF
    | .TF => Flag.TF
    | .IF => Flag.IF
    | .DF => Flag.DF
    | .OF => Flag.OF) ||| m) 0#16

theorem ArithmeticFlags.rtl_keeps (f : ArithmeticFlags) (flags : BitVec 16) :
    f.rtl flags &&& ~~~arithmeticFlags = flags &&& ~~~arithmeticFlags := by
  apply BitVec.eq_of_getLsbD_eq
  intro k hk
  unfold rtl
  simp only [BitVec.getLsbD_and, BitVec.getLsbD_not, getLsbD_setFlag hk]
  interval_cases k <;>
    simp [arithmeticFlags, Flag.AF, Flag.CF, Flag.OF, Flag.PF, Flag.SF,
      Flag.ZF, AF_IDX, CF_IDX, OF_IDX, PF_IDX, SF_IDX, ZF_IDX]

theorem productFlags_keeps (high : Bool) (flags : BitVec 16) :
    Rtl.ALU.productFlags high flags &&& ~~~mulFlags = flags &&& ~~~mulFlags := by
  apply BitVec.eq_of_getLsbD_eq
  intro k hk
  unfold Rtl.ALU.productFlags
  simp only [BitVec.getLsbD_and, BitVec.getLsbD_not, getLsbD_setFlag hk]
  interval_cases k <;>
    simp [mulFlags, Flag.CF, Flag.OF, Flag.ZF, CF_IDX, OF_IDX, ZF_IDX]

/-- The unit changes no flag but those the handlers take from it. -/
theorem unit_keeps_flags {op : Rtl.ALUOp} {mask : BitVec 16}
    (hop : (op, mask) ∈ unitMasks) (w : OperandWidth) (v1 v2 : BitVec w.bits)
    (flags : BitVec 16) :
    (unit op w upperA upperB v1 v2 flags).flagsOut &&& ~~~mask =
      flags &&& ~~~mask := by
  simp only [unitMasks, List.mem_cons, List.not_mem_nil, or_false,
    Prod.mk.injEq] at hop
  rcases hop with ⟨rfl, rfl⟩ | ⟨rfl, rfl⟩ | ⟨rfl, rfl⟩ | ⟨rfl, rfl⟩ |
    ⟨rfl, rfl⟩ | ⟨rfl, rfl⟩ | ⟨rfl, rfl⟩ | ⟨rfl, rfl⟩
  · change (Rtl.ALU.doAdd _ _ _ flags).2 &&& _ = _
    rw [doAdd_eq]
    exact ArithmeticFlags.rtl_keeps _ flags
  · change (Rtl.ALU.doAdc _ _ _ flags).2 &&& _ = _
    rw [doAdc_eq]
    exact ArithmeticFlags.rtl_keeps _ flags
  · change (Rtl.ALU.doSbb _ _ _ flags).2 &&& _ = _
    rw [doSbb_eq]
    exact ArithmeticFlags.rtl_keeps _ flags
  · change (Rtl.ALU.doSbb _ _ _ flags).2 &&& _ = _
    rw [doSbb_eq]
    exact ArithmeticFlags.rtl_keeps _ flags
  · change (Rtl.ALU.doSub _ _ _ flags).2 &&& _ = _
    rw [doSub_eq]
    exact ArithmeticFlags.rtl_keeps _ flags
  · change (Rtl.ALU.doSub _ _ _ flags).2 &&& _ = _
    rw [doSub_eq]
    exact ArithmeticFlags.rtl_keeps _ flags
  · cases w with
    | OP_WIDTH_8 =>
        rw [show Rtl.ALUOp.MUL = mulOp false from rfl, unit_byte]
        exact productFlags_keeps _ flags
    | OP_WIDTH_16 =>
        rw [show Rtl.ALUOp.MUL = mulOp false from rfl, unit_word]
        exact productFlags_keeps _ flags
  · cases w with
    | OP_WIDTH_8 =>
        rw [show Rtl.ALUOp.IMUL = mulOp true from rfl, unit_byte]
        exact productFlags_keeps _ flags
    | OP_WIDTH_16 =>
        rw [show Rtl.ALUOp.IMUL = mulOp true from rfl, unit_word]
        exact productFlags_keeps _ flags

/-- The microprograms of these instructions. -/
def unitWords : List Rtl.Microinstruction :=
  Rtl.Microcode.addWords ++ Rtl.Microcode.adcWords ++
    Rtl.Microcode.sbbWords ++ Rtl.Microcode.subWords ++
    Rtl.Microcode.cmpWords ++ Rtl.Microcode.mulWords

/-- The core updates the same flags as the handlers do. -/
theorem microcode_updates_masks :
    forall word, word ∈ unitWords -> word.updateFlags ≠ [] ->
      (word.aluOp, updateMask word.updateFlags) ∈ unitMasks := by
  decide +kernel

theorem execute_eq_unit :
    forall p : BitVec 8 × EmuM W Unit, p ∈ unitHandlers upperA upperB ->
      execute p.1 = p.2 := by
  have hsubrev : forall w, swapped (aluSub w : Alu W w) =
      viaUnit .SUBREV upperA upperB w := by
    intro w
    rw [viaUnit_SUBREV, aluSub_eq upperB upperA]
  have hsbbrev : forall w, swapped (aluSbb w : Alu W w) =
      viaUnit .SBBREV upperA upperB w := by
    intro w
    rw [viaUnit_SBBREV, aluSbb_eq upperB upperA]
  unfold unitHandlers
  simp only [List.forall_mem_append]
  refine ⟨⟨⟨⟨⟨?_, ?_⟩, ?_⟩, ?_⟩, ?_⟩, ?_⟩
  · apply familyHandlers_execute upperA upperB (aluAdd_eq upperA upperB)
      (aluAdd_eq upperA upperB)
    simp only [List.forall_mem_cons]
    exact ⟨rfl, rfl, rfl, rfl, rfl, rfl, by simp⟩
  · apply familyHandlers_execute upperA upperB (aluAdc_eq upperA upperB)
      (aluAdc_eq upperA upperB)
    simp only [List.forall_mem_cons]
    exact ⟨rfl, rfl, rfl, rfl, rfl, rfl, by simp⟩
  · apply familyHandlers_execute upperA upperB (aluSbb_eq upperA upperB)
      hsbbrev
    simp only [List.forall_mem_cons]
    exact ⟨rfl, rfl, rfl, rfl, rfl, rfl, by simp⟩
  · apply familyHandlers_execute upperA upperB (aluSub_eq upperA upperB)
      hsubrev
    simp only [List.forall_mem_cons]
    exact ⟨rfl, rfl, rfl, rfl, rfl, rfl, by simp⟩
  · apply familyHandlers_execute upperA upperB (aluSub_eq upperA upperB)
      hsubrev
    simp only [List.forall_mem_cons]
    exact ⟨rfl, rfl, rfl, rfl, rfl, rfl, by simp⟩
  · simp only [List.forall_mem_cons, <- aluGroup_eq upperA upperB,
      <- negMulNotTestDivF6_eq upperA upperB, <- negMulNotTestDivF7_eq]
    refine ⟨rfl, rfl, rfl, rfl, rfl, rfl, ?_, ?_, by simp⟩
    · exact imulImmediate_eq fetch16bit
    · exact imulImmediate_eq fetchSigned

theorem execute_sub2a_unit :
    (execute 0x2a#8 : EmuM Unit Unit) =
      aluRegRm OP_WIDTH_8 (viaUnit .SUBREV 0xff#8 0xa5#8 _) arithmeticFlags
        true := by
  have hmem : (0x2a#8, aluRegRm OP_WIDTH_8
      (viaUnit .SUBREV 0xff#8 0xa5#8 _) arithmeticFlags true) ∈
      (unitHandlers 0xff#8 0xa5#8 : List (BitVec 8 × EmuM Unit Unit)) := by
    simp [unitHandlers, familyHandlers]
  exact execute_eq_unit 0xff#8 0xa5#8 _ hmem

end Handlers

end Sim
end S80x86
