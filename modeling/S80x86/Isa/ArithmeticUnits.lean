import S80x86.Isa.Arithmetic
import S80x86.Isa.CoreState
import S80x86.Sim.TwoOperands

/-!
# The units that compute

The arithmetic unit of the core and the helpers of the emulator compute what
the operations are, whatever is above the low byte of a byte operand.
-/

open Foundation

namespace S80x86
namespace Isa

open Rtl.Flag

/-!
## Flags
-/

/-- A word shows the flags of a mask as the conditions say. -/
structure Shows (mask v : BitVec 16) (c : Conditions) : Prop where
  cf : v.getLsbD CF_IDX = c.cf
  pf : v.getLsbD PF_IDX = c.pf
  af : mask.getLsbD AF_IDX = true -> v.getLsbD AF_IDX = c.af
  zf : v.getLsbD ZF_IDX = c.zf
  sf : v.getLsbD SF_IDX = c.sf
  of : v.getLsbD OF_IDX = c.of

theorem Shows.mono {mask mask' v : BitVec 16} {c : Conditions}
    (h : Shows mask v c)
    (haf : mask'.getLsbD AF_IDX = true -> mask.getLsbD AF_IDX = true) :
    Shows mask' v c :=
  ⟨h.cf, h.pf, fun hin => h.af (haf hin), h.zf, h.sf, h.of⟩

theorem word_shows (mask : BitVec 16) (c : Conditions) :
    Shows mask c.word c := by
  unfold Conditions.word
  constructor <;>
    simp only [CF_IDX, PF_IDX, AF_IDX, ZF_IDX, SF_IDX, OF_IDX,
      BitVec.getLsbD_append] <;>
    simp

/-- Words that show the same flags change the flags in the same way. -/
theorem Shows.withFlags_eq {mask v : BitVec 16} {c : Conditions}
    (h : Shows mask v c) (hmask : mask &&& Flag.arithmetic = mask)
    (flags : BitVec 16) :
    withFlags mask v flags = withFlags mask c.word flags := by
  have hword := word_shows mask c
  apply withFlags_congr
  apply BitVec.eq_of_getLsbD_eq
  intro i hi
  rw [BitVec.getLsbD_and, BitVec.getLsbD_and]
  have hin : mask.getLsbD i = true -> Flag.arithmetic.getLsbD i = true := by
    intro hi
    rw [<- hmask, BitVec.getLsbD_and, Bool.and_eq_true] at hi
    exact hi.2
  cases hbit : mask.getLsbD i with
  | false =>
      rw [Bool.and_false, Bool.and_false]
  | true =>
      rw [Bool.and_true, Bool.and_true]
      have hcase := hin hbit
      have hcases : i = CF_IDX ∨ i = PF_IDX ∨ i = AF_IDX ∨ i = ZF_IDX ∨
          i = SF_IDX ∨ i = OF_IDX := by
        clear hin hbit h hword hmask
        revert hcase
        interval_cases i <;> decide
      rcases hcases with rfl | rfl | rfl | rfl | rfl | rfl
      · rw [h.cf, hword.cf]
      · rw [h.pf, hword.pf]
      · rw [h.af hbit, hword.af hbit]
      · rw [h.zf, hword.zf]
      · rw [h.sf, hword.sf]
      · rw [h.of, hword.of]

theorem Arith.mask_arithmetic (op : Arith) :
    op.mask &&& Flag.arithmetic = op.mask := by
  cases op <;> decide

theorem Arith.mask_all (op : Arith) : op.mask &&& Flag.all = op.mask := by
  cases op <;> decide

/-- The parity of the low byte. -/
theorem evenOnes_low {n : Nat} (v : BitVec n) :
    Sim.evenOnes (v.setWidth 8) = evenOnes v := by
  have hcount : (List.range 8).countP (fun i => (v.setWidth 8).getLsbD i) =
      (List.range 8).countP (fun i => v.getLsbD i) := by
    apply List.countP_congr
    intro i hi
    have hlt : i < 8 := List.mem_range.mp hi
    simp [hlt]
  unfold Sim.evenOnes evenOnes
  rw [hcount]

/-- The conditions that the flags of a sum state. -/
theorem sumFlags_shows (mask flags : BitVec 16) (neg : Bool)
    (w : Sim.OperandWidth) (x y : BitVec w.bits) (c : Bool) :
    Shows mask ((Sim.sumFlags neg w x y c).rtl flags)
      (sum neg x y c).conditions := by
  obtain ⟨hcf, hpf, haf, hzf, hsf, hof⟩ :=
    (Sim.sumFlags neg w x y c).rtl_bits flags
  exact ⟨hcf, hpf.trans (evenOnes_low _), fun _ => haf, hzf, hsf, hof⟩

/-- The conditions that the flags of a logic operation state. -/
theorem bits_shows {n : Nat} (r : BitVec n) (f : Sim.ArithmeticFlags)
    (flags : BitVec 16) (hcf : f.cf = false) (hof : f.of = false)
    (hpf : f.pf = evenOnes r) (hzf : f.zf = (r == 0#n)) (hsf : f.sf = r.msb) :
    Shows Flag.logic (f.rtl flags) (bits r).conditions := by
  obtain ⟨hc, hp, -, hz, hs, ho⟩ := f.rtl_bits flags
  refine ⟨hc.trans hcf, hp.trans hpf, fun haf => ?_, hz.trans hzf,
    hs.trans hsf, ho.trans hof⟩
  exact absurd haf (by decide)

/-!
## The unit of the core
-/

section Unit

variable (is8Bit : Bool) (a b flags : BitVec 16)

theorem rtlResult_sum (mask : BitVec 16) (neg c : Bool) :
    Shows mask (Sim.rtlResult neg is8Bit a b flags c).2
        (sum neg (a.setWidth (width is8Bit)) (b.setWidth (width is8Bit))
          c).conditions ∧
      (Sim.rtlResult neg is8Bit a b flags c).1.setWidth (width is8Bit) =
        (sum neg (a.setWidth (width is8Bit)) (b.setWidth (width is8Bit))
          c).value := by
  cases is8Bit with
  | true =>
      have hflags := Sim.rtlFlags_eq neg .OP_WIDTH_8 a b c
      have hshows := sumFlags_shows mask flags neg .OP_WIDTH_8
        (a.setWidth 8) (b.setWidth 8) c
      rw [show Sim.sumFlags neg .OP_WIDTH_8 (a.setWidth 8) (b.setWidth 8) c =
        Sim.rtlFlags neg true a b c from hflags.symm] at hshows
      exact ⟨hshows, Sim.rtlSum_setWidth neg a b c (show 8 <= 16 by omega)⟩
  | false =>
      have hflags := Sim.rtlFlags_eq neg .OP_WIDTH_16 a b c
      have hshows := sumFlags_shows mask flags neg .OP_WIDTH_16
        (a.setWidth 16) (b.setWidth 16) c
      rw [show Sim.sumFlags neg .OP_WIDTH_16 (a.setWidth 16) (b.setWidth 16) c =
        Sim.rtlFlags neg false a b c from hflags.symm] at hshows
      exact ⟨hshows, Sim.rtlSum_setWidth neg a b c (Nat.le_refl 16)⟩

theorem doLogic_bits (out : BitVec 16) :
    Shows Flag.logic (Rtl.ALU.doLogic is8Bit out a b flags).2
        (bits (out.setWidth (width is8Bit))).conditions := by
  let f : Sim.ArithmeticFlags :=
    { af := Bool.xor (Bool.xor (a.getLsbD 4) (b.getLsbD 4)) (out.getLsbD 4)
      cf := false
      sf := Rtl.ALU.pick is8Bit out 7 15
      zf := Rtl.ALU.isZero is8Bit out
      pf := !Rtl.ALU.xorReduce (Rtl.ALU.low out)
      of := false }
  have hwide : 8 <= width is8Bit := by cases is8Bit <;> decide
  have hparity : f.pf = evenOnes (out.setWidth (width is8Bit)) := by
    change (!Rtl.ALU.xorReduce (Rtl.ALU.low out)) = _
    rw [Sim.not_xorReduce, Sim.low_eq_setWidth, <- evenOnes_low,
      BitVec.setWidth_setWidth_of_le out hwide]
  change Shows Flag.logic (f.rtl flags) _
  refine bits_shows _ f flags rfl rfl hparity ?_ ?_
  · cases is8Bit with
    | true =>
        change (Rtl.ALU.low out == 0#8) = (out.setWidth 8 == 0#8)
        rw [Sim.low_eq_setWidth]
    | false =>
        change (out == 0#16) = (out.setWidth 16 == 0#16)
        rw [BitVec.setWidth_eq]
  · rw [BitVec.msb_eq_getLsbD_last]
    cases is8Bit <;> simp [f, Rtl.ALU.pick, width]

end Unit

/-- The operation of the unit. -/
def Arith.aluOp : Arith -> Rtl.ALUOp
  | .add => .ADD
  | .or => .OR
  | .adc => .ADC
  | .sbb => .SBB
  | .and => .AND
  | .sub => .SUB
  | .xor => .XOR
  | .cmp => .SUB
  | .test => .AND

/-- The unit puts out a result and flags. -/
structure PutsOut (mask : BitVec 16) (is8Bit : Bool) (out : Rtl.ALU.Output)
    (o : Outcome (width is8Bit)) : Prop where
  shows_flags : Shows mask out.flagsOut o.conditions
  value : (out.out.setWidth 16).setWidth (width is8Bit) = o.value

theorem plain_putsOut {mask : BitVec 16} {is8Bit : Bool}
    {r : BitVec 16 × BitVec 16} {o : Outcome (width is8Bit)}
    (hflags : Shows mask r.2 o.conditions)
    (hvalue : r.1.setWidth (width is8Bit) = o.value) :
    PutsOut mask is8Bit (Rtl.ALU.plain r) o := by
  refine ⟨hflags, ?_⟩
  have hplain : (Rtl.ALU.plain r).out.setWidth 16 = r.1 :=
    BitVec.setWidth_setWidth_of_le r.1 (by omega)
  rw [hplain]
  exact hvalue

/-- The unit computes the operation, on the low bytes or on the words. -/
theorem run_arith (op : Arith) (i : Rtl.ALU.Input) (hop : i.op = op.aluOp) :
    PutsOut op.mask i.is8Bit (Rtl.ALU.run i)
      (op.outcome (i.flagsIn.getLsbD CF_IDX) (i.a.setWidth (width i.is8Bit))
        (i.b.setWidth (width i.is8Bit))) := by
  obtain ⟨a, b, is8Bit, o, flags, multibit, count⟩ := i
  dsimp only at hop
  subst hop
  have hsum (neg c : Bool) := rtlResult_sum is8Bit a b flags Flag.arithmetic
    neg c
  have hbits (out : BitVec 16) := doLogic_bits is8Bit a b flags out
  cases op with
  | add =>
      have h := hsum false false
      rw [<- Sim.doAdd_eq] at h
      exact plain_putsOut h.1 h.2
  | or =>
      have h := hbits (a ||| b)
      rw [BitVec.setWidth_or] at h
      exact plain_putsOut h BitVec.setWidth_or
  | adc =>
      have h := hsum false (flags.getLsbD CF_IDX)
      rw [<- Sim.doAdc_eq] at h
      exact plain_putsOut h.1 h.2
  | sbb =>
      have h := hsum true (flags.getLsbD CF_IDX)
      rw [<- Sim.doSbb_eq] at h
      exact plain_putsOut h.1 h.2
  | and =>
      have h := hbits (a &&& b)
      rw [BitVec.setWidth_and] at h
      exact plain_putsOut h BitVec.setWidth_and
  | sub =>
      have h := hsum true false
      rw [<- Sim.doSub_eq] at h
      exact plain_putsOut h.1 h.2
  | xor =>
      have h := hbits (a ^^^ b)
      rw [BitVec.setWidth_xor] at h
      exact plain_putsOut h BitVec.setWidth_xor
  | cmp =>
      have h := hsum true false
      rw [<- Sim.doSub_eq] at h
      exact plain_putsOut h.1 h.2
  | test =>
      have h := hbits (a &&& b)
      rw [BitVec.setWidth_and] at h
      exact plain_putsOut h BitVec.setWidth_and

/-!
## The helpers of the emulator
-/

section Helpers

open Foundation.Effect

variable {W : Type} {env : Sim.Environment W}

/-- The flags that the helper derives from any operation. -/
theorem aluResult_emulated (T : Sim.IntType) (flags : BitVec 16)
    (v1 v2 carry : BitVec 32) (g : Sim.AluOp) :
    exists f : Sim.ArithmeticFlags,
      Sim.aluResult T flags v1 v2 carry g =
          (f.emulated flags, (g v1 v2 carry).setWidth T.bits) ∧
        f.sf = (g v1 v2 carry).getLsbD (T.bits - 1) ∧
        f.zf = (g v1 v2 carry &&& T.minusOne == 0#32) ∧
        f.pf = !Sim.builtinParity (g v1 v2 carry &&& 0xff#32) := by
  let below (x : BitVec 32) := x &&& ~~~(1#32 <<< (T.bits - 1))
  let cf := (g v1 v2 carry).getLsbD T.bits
  let f : Sim.ArithmeticFlags :=
    { af := (g (v1 &&& 0xf#32) (v2 &&& 0xf#32) carry).getLsbD 4
      cf := cf
      sf := (g v1 v2 carry).getLsbD (T.bits - 1)
      zf := g v1 v2 carry &&& T.minusOne == 0#32
      pf := !Sim.builtinParity (g v1 v2 carry &&& 0xff#32)
      of := Bool.xor ((g (below v1) (below v2) carry).getLsbD (T.bits - 1))
        cf }
  refine ⟨f, ?_, rfl, rfl, rfl⟩
  unfold Sim.aluResult Sim.ArithmeticFlags.emulated
  simp only [Sim.and_CF_bne, Sim.getLsbD_setIf, BitVec.getLsbD_and,
    BitVec.getLsbD_not]
  simp [Sim.Flag.AF, Sim.Flag.CF, Sim.Flag.SF, Sim.Flag.PF, Sim.Flag.ZF,
    Sim.Flag.OF, f, cf, below]

/-- A logic operation, after which carry and overflow are cleared. -/
theorem aluResult_bits (w : Sim.OperandWidth) (flags : BitVec 16)
    {v1 v2 : BitVec 32} {g : Sim.AluOp} {r : BitVec w.bits}
    (hg : g v1 v2 0#32 = r.setWidth 32) :
    Shows Flag.logic ((Sim.aluResult w.unsigned flags v1 v2 0#32 g).1 &&&
        ~~~(Sim.Flag.CF ||| Sim.Flag.OF)) (bits r).conditions ∧
      (Sim.aluResult w.unsigned flags v1 v2 0#32 g).2.setWidth w.bits = r := by
  obtain ⟨f, hresult, hsf, hzf, hpf⟩ :=
    aluResult_emulated w.unsigned flags v1 v2 0#32 g
  rw [hg] at hresult hsf hzf hpf
  rw [hresult, Sim.ArithmeticFlags.emulated_eq_rtl]
  obtain ⟨-, hp, -, hz, hs, -⟩ := f.rtl_bits flags
  have hwide : w.bits <= 32 := by cases w <;> decide
  have hbits : w.unsigned.bits = w.bits := by cases w <;> rfl
  have hback : (r.setWidth 32).setWidth w.bits = r := by
    rw [BitVec.setWidth_setWidth_of_le r hwide, BitVec.setWidth_eq]
  have hones : w.unsigned.minusOne = (BitVec.allOnes w.bits).setWidth 32 := by
    cases w <;> rfl
  have hzero : f.zf = (r == 0#w.bits) := by
    rw [hzf, hones, Sim.and_allOnes, hback, Bool.eq_iff_iff, beq_iff_eq,
      beq_iff_eq]
    constructor
    · intro h
      rw [<- hback, h]
      simp
    · rintro rfl
      simp
  have hsign : f.sf = r.msb := by
    rw [hsf, hbits, BitVec.msb_eq_getLsbD_last, BitVec.getLsbD_setWidth]
    have hlt : w.bits - 1 < 32 := by omega
    simp [hlt]
  have hparity : f.pf = evenOnes r := by
    have hmask := Sim.and_allOnes 8 (r.setWidth 32)
    rw [hpf, show (0xff#32 : BitVec 32) = (BitVec.allOnes 8).setWidth 32 from
      rfl, hmask, Sim.builtinParity_byte, Sim.not_xorReduce,
      BitVec.setWidth_setWidth_of_le r (by cases w <;> decide)]
    exact evenOnes_low r
  have hkept {i : Nat} (hi : (~~~(Sim.Flag.CF ||| Sim.Flag.OF)).getLsbD i =
      true) : (f.rtl flags &&& ~~~(Sim.Flag.CF ||| Sim.Flag.OF)).getLsbD i =
        (f.rtl flags).getLsbD i := by
    rw [BitVec.getLsbD_and, hi, Bool.and_true]
  have hcleared {i : Nat} (hi : (~~~(Sim.Flag.CF ||| Sim.Flag.OF)).getLsbD i =
      false) : (f.rtl flags &&& ~~~(Sim.Flag.CF ||| Sim.Flag.OF)).getLsbD i =
        false := by
    rw [BitVec.getLsbD_and, hi, Bool.and_false]
  constructor
  · constructor
    · exact hcleared rfl
    · rw [hkept rfl, hp, hparity]
      rfl
    · intro haf
      exact absurd haf (by decide)
    · rw [hkept rfl, hz, hzero]
      rfl
    · rw [hkept rfl, hs, hsign]
      rfl
    · exact hcleared rfl
  · change ((r.setWidth 32).setWidth w.unsigned.bits).setWidth w.bits = r
    rw [hbits, hback, BitVec.setWidth_eq]

/-- The helper of an operation. -/
def Arith.helper (op : Arith) (w : Sim.OperandWidth) : Sim.Alu W w :=
  match op with
  | .add => Sim.aluAdd w
  | .or => Sim.aluOr w
  | .adc => Sim.aluAdc w
  | .sbb => Sim.aluSbb w
  | .and => Sim.aluAnd w
  | .sub => Sim.aluSub w
  | .xor => Sim.aluXor w
  | .cmp => Sim.aluSub w
  | .test => Sim.aluAnd w

/-- The helper computes the operation. -/
theorem helper_returns (op : Arith) {w : Sim.OperandWidth} (e : Sim.Emulator W)
    (a b : BitVec w.bits) :
    exists f, Returns (op.helper w a b) env e (f, (op.outcome
        (e.registers.getFlag Sim.Flag.CF) a b).value) e ∧
      Shows op.mask f
        (op.outcome (e.registers.getFlag Sim.Flag.CF) a b).conditions := by
  have hsum (neg c : Bool) := sumFlags_shows Flag.arithmetic
    e.registers.getFlags neg w a b c
  have hreturns (neg c : Bool) :=
    @Sim.doUnsigned_returns W env neg w e a b c
  have hwiden (x : BitVec w.bits) :
      (x.setWidth 16).setWidth 32 = x.setWidth 32 :=
    BitVec.setWidth_setWidth (by have hle := Sim.bits_le w; omega)
  have hlogic {g : Sim.AluOp} {r : BitVec w.bits}
      (hg : g ((a.setWidth 16).setWidth 32) ((b.setWidth 16).setWidth 32)
        0#32 = r.setWidth 32) :
      exists f, Returns (Sim.clearCarry w (Sim.doUnsigned w (a.setWidth 16)
          (b.setWidth 16) false g)) env e (f, r) e ∧
        Shows Flag.logic f (bits r).conditions := by
    obtain ⟨hshows, hvalue⟩ := aluResult_bits w e.registers.getFlags hg
    refine ⟨_, ?_, hshows⟩
    rw [<- hvalue]
    rfl
  cases op with
  | add => exact ⟨_, hreturns false false, hsum false false⟩
  | or => 
      refine @hlogic (fun x y _ => x ||| y) (a ||| b) ?_
      rw [hwiden, hwiden, BitVec.setWidth_or]
  | adc =>
      exact ⟨_, returns_bind.mpr ⟨_, _, Sim.carryFlag_returns e,
        hreturns false _⟩, hsum false _⟩
  | sbb =>
      exact ⟨_, returns_bind.mpr ⟨_, _, Sim.carryFlag_returns e,
        hreturns true _⟩, hsum true _⟩
  | and => 
      refine @hlogic (fun x y _ => x &&& y) (a &&& b) ?_
      rw [hwiden, hwiden, BitVec.setWidth_and]
  | sub => exact ⟨_, hreturns true false, hsum true false⟩
  | xor => 
      refine @hlogic (fun x y _ => x ^^^ y) (a ^^^ b) ?_
      rw [hwiden, hwiden, BitVec.setWidth_xor]
  | cmp => exact ⟨_, hreturns true false, hsum true false⟩
  | test => 
      refine @hlogic (fun x y _ => x &&& y) (a &&& b) ?_
      rw [hwiden, hwiden, BitVec.setWidth_and]

end Helpers

end Isa
end S80x86
