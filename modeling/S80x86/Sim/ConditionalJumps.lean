import S80x86.Sim.TwoOperands

/-!
# Comparison and conditional jump

Which relation between two operands each conditional jump tests after they are
compared, in the emulator and in the core.
-/

open Foundation

namespace S80x86
namespace Sim

open Foundation.Effect

variable {W : Type}

/-- The conditional jumps. -/
inductive Condition where
  | jo
  | jno
  | jb
  | jnb
  | je
  | jne
  | jbe
  | jnbe
  | js
  | jns
  | jp
  | jnp
  | jl
  | jnl
  | jle
  | jnle
  deriving DecidableEq, Repr

namespace Condition

def opcode : Condition -> BitVec 8
  | jo => 0x70#8
  | jno => 0x71#8
  | jb => 0x72#8
  | jnb => 0x73#8
  | je => 0x74#8
  | jne => 0x75#8
  | jbe => 0x76#8
  | jnbe => 0x77#8
  | js => 0x78#8
  | jns => 0x79#8
  | jp => 0x7a#8
  | jnp => 0x7b#8
  | jl => 0x7c#8
  | jnl => 0x7d#8
  | jle => 0x7e#8
  | jnle => 0x7f#8

/-- The relation a jump stands for: `jb` to `jnbe` compare the operands as
unsigned numbers, `jl` to `jnle` as signed ones. -/
def Holds {w : Nat} (a b : BitVec w) : Condition -> Prop
  | jo => Carry.overflows (w - 1) (a.toInt - b.toInt) = true
  | jno => Carry.overflows (w - 1) (a.toInt - b.toInt) = false
  | jb => a.toNat < b.toNat
  | jnb => b.toNat ≤ a.toNat
  | je => a = b
  | jne => a ≠ b
  | jbe => a.toNat ≤ b.toNat
  | jnbe => b.toNat < a.toNat
  | js => (a - b).msb = true
  | jns => (a - b).msb = false
  | jp => evenOnes ((a - b).setWidth 8) = true
  | jnp => evenOnes ((a - b).setWidth 8) = false
  | jl => a.toInt < b.toInt
  | jnl => b.toInt ≤ a.toInt
  | jle => a.toInt ≤ b.toInt
  | jnle => b.toInt < a.toInt

/-- The combination of flags a jump reads. -/
def test (f : ArithmeticFlags) : Condition -> Bool
  | jo => f.of
  | jno => !f.of
  | jb => f.cf
  | jnb => !f.cf
  | je => f.zf
  | jne => !f.zf
  | jbe => f.cf || f.zf
  | jnbe => !(f.cf || f.zf)
  | js => f.sf
  | jns => !f.sf
  | jp => f.pf
  | jnp => !f.pf
  | jl => Bool.xor f.of f.sf
  | jnl => !Bool.xor f.sf f.of
  | jle => Bool.xor f.of f.sf || f.zf
  | jnle => !(Bool.xor f.sf f.of || f.zf)

end Condition

/-!
## The flags of a difference
-/

section Difference

variable {w : OperandWidth} (a b : BitVec w.bits)

theorem addSub_true_false : Carry.addSub true a b false = a - b := by
  simp [Carry.addSub]

theorem difference_cf :
    (sumFlags true w a b false).cf = decide (a.toNat < b.toNat) := by
  change Carry.carryOut true a b false = _
  rw [Carry.carryOut_true, Bool.toNat_false, Nat.add_zero]

theorem difference_zf : (sumFlags true w a b false).zf = decide (a = b) := by
  change (Carry.addSub true a b false == 0#w.bits) = _
  rw [addSub_true_false, Bool.eq_iff_iff, beq_iff_eq, decide_eq_true_iff]
  constructor
  · intro h
    rw [← BitVec.sub_add_cancel a b, h, BitVec.zero_add]
  · intro h
    rw [h, BitVec.sub_self]

theorem difference_sf : (sumFlags true w a b false).sf = (a - b).msb := by
  change (Carry.addSub true a b false).msb = _
  rw [addSub_true_false]

theorem difference_pf :
    (sumFlags true w a b false).pf = evenOnes ((a - b).setWidth 8) := by
  change evenOnes ((Carry.addSub true a b false).setWidth 8) = _
  rw [addSub_true_false]

theorem difference_of :
    (sumFlags true w a b false).of =
      Carry.overflows (w.bits - 1) (a.toInt - b.toInt) := by
  simp [sumFlags, Carry.value]

/-- Sign and overflow together give the signed order. -/
theorem overflows_xor_msb :
    Bool.xor (Carry.overflows (w.bits - 1) (a.toInt - b.toInt)) (a - b).msb =
      decide (a.toInt < b.toInt) := by
  have hxor : forall p q r : Prop, [Decidable p] -> [Decidable q] ->
      [Decidable r] -> (¬(p ↔ q) ↔ r) ->
      Bool.xor (decide p) (decide q) = decide r := by
    intro p q r _ _ _ h
    by_cases hp : p <;> by_cases hq : q <;> simp_all
  rw [BitVec.msb_eq_toInt, BitVec.toInt_sub]
  unfold Carry.overflows
  apply hxor
  have ha := BitVec.le_toInt a
  have ha' : a.toInt < 2 ^ (w.bits - 1) := BitVec.toInt_lt
  have hb := BitVec.le_toInt b
  have hb' : b.toInt < 2 ^ (w.bits - 1) := BitVec.toInt_lt
  generalize a.toInt = x at *
  generalize b.toInt = y at *
  cases w with
  | OP_WIDTH_8 =>
      unfold Int.bmod
      norm_num at *
      omega
  | OP_WIDTH_16 =>
      unfold Int.bmod
      norm_num at *
      omega

theorem Condition.test_difference (c : Condition) :
    c.test (sumFlags true w a b false) = true ↔ c.Holds a b := by
  have hcomm := Bool.xor_comm (a - b).msb
    (Carry.overflows (w.bits - 1) (a.toInt - b.toInt))
  have hint : a = b ↔ a.toInt = b.toInt := BitVec.toInt_inj.symm
  have hnat : a = b ↔ a.toNat = b.toNat := BitVec.toNat_inj.symm
  cases c <;>
    simp only [test, Holds, difference_cf, difference_zf, difference_sf,
      difference_pf, difference_of, hcomm, overflows_xor_msb,
      Bool.or_eq_true, Bool.not_eq_true', Bool.or_eq_false_iff,
      decide_eq_true_iff, decide_eq_false_iff_not, Nat.not_lt, Int.not_lt]
  case jbe =>
    rw [hnat]
    omega
  case jnbe =>
    rw [hnat]
    omega
  case jle =>
    rw [hint]
    omega
  case jnle =>
    rw [hint]
    omega

end Difference

/-!
## The emulator
-/

/-- The state after a jump by a displacement from the next instruction. -/
def Emulator.jumped (displacement : BitVec 16) (e : Emulator W) :
    Emulator W :=
  { e with
    registers :=
      e.registers.set .IP
        (e.registers.ip + BitVec.ofNat 16 e.instrLength + displacement)
    jumpTaken := true }

/-- The state after the displacement of a conditional jump is fetched and the
jump is taken, or not. -/
def Emulator.branched (taken : Bool) (e : Emulator W) : Emulator W :=
  let next := { e with instrLength := e.instrLength + 1 }
  if taken then next.jumped ((e.codeByte e.instrLength).signExtend 16)
  else next

theorem execute_condition (c : Condition) :
    (execute c.opcode : EmuM W Unit) =
      jumpIf (flagTest fun f =>
        c.test
          { af := f Flag.AF, cf := f Flag.CF, sf := f Flag.SF
            zf := f Flag.ZF, pf := f Flag.PF, of := f Flag.OF }) := by
  cases c <;> rfl

theorem condition_returns {env : Environment W}
    (henv : env.addressing.LinearBytes) (c : Condition) (e : Emulator W) :
    Returns (execute c.opcode) env e ()
      (e.branched (c.test e.registers.arithmetic)) := by
  rw [execute_condition]
  refine returns_bind.mpr
    ⟨(e.codeByte e.instrLength).signExtend 16,
      { e with instrLength := e.instrLength + 1 }, ?_, ?_⟩
  · exact returns_bind.mpr ⟨_, _, fetchByte_returns henv e, rfl⟩
  · refine returns_bind.mpr ⟨c.test e.registers.arithmetic, _, rfl, ?_⟩
    unfold Emulator.branched
    cases c.test e.registers.arithmetic with
    | false =>
        rfl
    | true =>
        rfl

/-!
## The core
-/

theorem jumpTest_taken (c : Condition) (f : Rtl.Flags) :
    Rtl.JumpTest.taken c.opcode f.flagsOut = c.test (coreFlags f) := by
  rw [coreFlags_flagsOut]
  cases c <;> rfl

/-- The flags of the core after it compared two operands on its buses. -/
def coreCompared (w : OperandWidth) (upperA upperB : BitVec 8)
    (a b : BitVec w.bits) (f : Rtl.Flags) : Rtl.Flags :=
  Rtl.Flags.step arithmeticUpdates
    (Rtl.ALU.doSub w.is8Bit (onBus upperA w a) (onBus upperB w b)
      f.flagsOut).2 f

theorem coreCompared_taken {w : OperandWidth} (c : Condition)
    (upperA upperB : BitVec 8) (a b : BitVec w.bits) (f : Rtl.Flags) :
    Rtl.JumpTest.taken c.opcode
        (coreCompared w upperA upperB a b f).flagsOut = true ↔
      c.Holds a b := by
  have hsub := (rtlResult_eq true w upperA upperB a b f.flagsOut false).1
  rw [← doSub_eq] at hsub
  rw [jumpTest_taken, coreCompared, hsub, coreFlags_step]
  exact c.test_difference a b

/-- After a comparison, in the emulator from any state and in the core on any
flags, a conditional jump is taken exactly when its relation holds. -/
theorem conditional_jump_iff {env : Environment W}
    (henv : env.addressing = Addressing.emulator) {w : OperandWidth}
    {form : Form} {e s : Emulator W} {a b : BitVec w.bits}
    (h : Returns (form.operands w) env e (a, b) s)
    (hselects : form.Selects .cmp s) (c : Condition) :
    (exists t, Returns (execute (form.opcode .cmp w)) env e () t ∧
      forall u : Emulator W, u.registers.flags = t.registers.flags ->
        exists taken, (taken = true ↔ c.Holds a b) ∧
          Returns (execute c.opcode) env u () (u.branched taken)) ∧
      forall (upperA upperB : BitVec 8) (f : Rtl.Flags),
        Rtl.JumpTest.taken c.opcode
            (coreCompared w upperA upperB a b f).flagsOut = true ↔
          c.Holds a b := by
  have hlinear : env.addressing.LinearBytes := by
    rw [henv]
    exact Addressing.linearBytes_emulator
  refine ⟨?_, fun upperA upperB f => coreCompared_taken c upperA upperB a b f⟩
  obtain ⟨t, hcmp, hflags, -, -⟩ := execute_result .cmp w henv h hselects
  refine ⟨t, hcmp, fun u hu => ?_⟩
  refine ⟨_, ?_, condition_returns hlinear c u⟩
  have hsame : u.registers.arithmetic = sumFlags true w a b false := by
    rw [arithmetic_congr (hu.trans hflags)]
    exact arithmetic_setFlags s.registers _ _
  rw [hsame]
  exact c.test_difference a b

/-- `CMP AL, 5` with `AL` zero, and then `JL`. -/
theorem conditional_jump_iff_jl :
    exists t, Returns (execute 0x3c#8) Environment.bare
        (Emulator.fresh () fun _ => 5#8) () t ∧
      Returns (execute 0x7c#8) Environment.bare t () (t.branched true) := by
  have hoperands : Returns (Form.accumulator.operands .OP_WIDTH_8)
      Environment.bare (Emulator.fresh () fun _ => 5#8) (0#8, 5#8)
      { (Emulator.fresh () fun _ => 5#8 : Emulator Unit) with
        instrLength := 1 } := by
    refine returns_bind.mpr ⟨_, _, rfl, ?_⟩
    refine returns_bind.mpr
      ⟨_, _, fetchByte_returns Addressing.linearBytes_emulator _, ?_⟩
    rfl
  obtain ⟨⟨t, hcmp, hjump⟩, -⟩ :=
    conditional_jump_iff rfl hoperands trivial .jl
  obtain ⟨taken, hiff, hrun⟩ := hjump t rfl
  have htaken : taken = true := by
    rw [hiff]
    change (0#8).toInt < (5#8).toInt
    decide
  rw [htaken] at hrun
  exact ⟨t, hcmp, hrun⟩

end Sim
end S80x86
