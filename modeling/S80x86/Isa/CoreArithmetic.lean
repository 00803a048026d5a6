import S80x86.Isa.ArithmeticUnits
import S80x86.Isa.Operations

/-!
# Arithmetic in the core

The microprograms of the instructions on the accumulator and an immediate, and
of the ones that count a register up or down.
-/

namespace S80x86
namespace Isa

open Rtl Rtl.GPR Rtl.Machine
open scoped Rtl.Machine.Eval

/-!
## Values of a width
-/

/-- A register takes as much of a value as it has room for. -/
theorem write_congr {is8Bit : Bool} {v v' : BitVec 16}
    (h : v.setWidth (width is8Bit) = v'.setWidth (width is8Bit)) (g : Gprs)
    (r : BitVec 3) : g.write is8Bit r v = g.write is8Bit r v' := by
  cases is8Bit with
  | true =>
      have hv : v.extractLsb' 0 8 = v'.extractLsb' 0 8 := by
        have hlow (x : BitVec 16) : x.extractLsb' 0 8 = x.setWidth 8 :=
          Sim.low_eq_setWidth x
        rw [hlow, hlow]
        exact h
      unfold Gprs.write
      rw [hv]
      rfl
  | false =>
      have hv : v = v' := by
        rw [<- BitVec.setWidth_eq v, <- BitVec.setWidth_eq v']
        exact h
      rw [hv]

/-- A result is written as it is. -/
theorem write_value {is8Bit : Bool} {out : BitVec 16}
    {v : BitVec (width is8Bit)} (h : out.setWidth (width is8Bit) = v)
    (g : Gprs) (r : BitVec 3) :
    g.write is8Bit r out = g.write is8Bit r (v.setWidth 16) := by
  apply write_congr
  have hle : width is8Bit <= 16 := by cases is8Bit <;> decide
  rw [h, BitVec.setWidth_setWidth_of_le v hle, BitVec.setWidth_eq]

/-!
## The accumulator and an immediate
-/

/-- The flags that the microcode updates for an operation. -/
def Arith.updates (op : Arith) : List UpdateFlags :=
  if op.isLogic then [.OF, .SF, .ZF, .CF, .PF]
  else [.OF, .SF, .ZF, .AF, .CF, .PF]

theorem Arith.updates_mask (op : Arith) : Updates op.updates op.mask := by
  refine ⟨fun u => ?_, op.mask_all⟩
  cases op <;> cases u <;> decide

/-- The word that selects the accumulator. -/
def accumulatorWord (next : Nat) : Microinstruction :=
  { width := .WAUTO, raSel := AL, next := next }

def arithWord (op : Arith) (next : Nat) : Microinstruction :=
  { aSel := .RA, bSel := .IMMEDIATE, aluOp := op.aluOp
    rdSelSource := if op.stores then .MICROCODE_RD_SEL else .NONE
    rdSel := AL, updateFlags := op.updates, width := .WAUTO
    nextInstruction := true, next := next }

/-- Where the operation itself is in the store. -/
def Arith.entry : Arith -> Nat
  | add => 0x14b
  | or => 0x2ee
  | adc => 0x13c
  | sbb => 0x3b0
  | and => 0x15a
  | sub => 0x3f8
  | xor => 0x431
  | cmp => 0x192
  | test => 0x404

set_option maxRecDepth 4000 in
theorem arith_program (op : Arith) (c : Control) :
    c.program 1 op.opcode.toNat =
        some ([accumulatorWord op.entry], arithWord op (op.entry + 1)) ∧
      c.program 1 (op.opcode + 1#8).toNat =
        some ([accumulatorWord op.entry], arithWord op (op.entry + 1)) := by
  cases op <;> exact ⟨rfl, rfl⟩

section Accumulator

variable (m : Machine) (op : Arith) {is8Bit : Bool} (first last : Nat)

/-- The last word sees the accumulator and the immediate. -/
theorem arith_putsOut (hwidth : (!m.insn.opcode.getLsbD 0) = is8Bit) :
    PutsOut op.mask is8Bit
      ((m.follow [accumulatorWord first]).alu (arithWord op last))
      (op.outcome (m.flags.flagsOut.getLsbD Flag.CF_IDX)
        ((m.gprs.read is8Bit AL).setWidth (width is8Bit))
        (m.insn.immediates0.setWidth (width is8Bit))) := by
  subst hwidth
  have hrun := run_arith op
    { a := m.gprs.read (!m.insn.opcode.getLsbD 0) AL
      b := m.insn.immediates0
      is8Bit := !m.insn.opcode.getLsbD 0
      op := op.aluOp
      flagsIn := m.flags.flagsOut
      multibitShift := m.multibitShift
      shiftCount := m.tmp.extractLsb' 0 5 } rfl
  exact hrun

/-- The registers that take the result. -/
theorem arith_gprs (hwidth : (!m.insn.opcode.getLsbD 0) = is8Bit) :
    (m.follow [accumulatorWord first]).nextGprs (arithWord op last) =
      if op.stores then m.gprs.write is8Bit AL
        ((op.outcome (m.flags.flagsOut.getLsbD Flag.CF_IDX)
          ((m.gprs.read is8Bit AL).setWidth (width is8Bit))
          (m.insn.immediates0.setWidth (width is8Bit))).value.setWidth 16)
      else m.gprs := by
  have hout := arith_putsOut m op first last hwidth
  subst hwidth
  unfold nextGprs Microinstruction.regWrEn arithWord
  cases hstores : op.stores with
  | false =>
      rfl
  | true =>
      exact write_value hout.value m.gprs AL

/-- The flags that the last word leaves. -/
theorem arith_flags (hwidth : (!m.insn.opcode.getLsbD 0) = is8Bit) :
    (Flags.step op.updates ((m.follow [accumulatorWord first]).alu
        (arithWord op last)).flagsOut m.flags).flagsOut =
      withFlags op.mask
        (op.outcome (m.flags.flagsOut.getLsbD Flag.CF_IDX)
          ((m.gprs.read is8Bit AL).setWidth (width is8Bit))
          (m.insn.immediates0.setWidth (width is8Bit))).conditions.word
        m.flags.flagsOut := by
  have hout := arith_putsOut m op first last hwidth
  rw [op.updates_mask.flagsOut_step]
  exact hout.shows_flags.withFlags_eq op.mask_arithmetic _

theorem performs_arith {addr first last : Nat} (hnew : m.newIp = none)
    (hwidth : (!m.insn.opcode.getLsbD 0) = is8Bit)
    (hprogram : forall c : Control, c.program 1 addr =
      some ([accumulatorWord first], arithWord op last)) :
    Performs addr m (.arith op is8Bit m.insn.immediates0) := by
  have hgprs := arith_gprs m op first last hwidth
  have hflags := arith_flags m op first last hwidth
  have hip : ((m.follow [accumulatorWord first]).loadedIp
      (arithWord op last)).getD m.ip = m.ip := by
    simp [accumulatorWord, arithWord, hnew]
  refine ⟨_, retires_of_program (hprogram m.control), ?_⟩
  cases hstores : op.stores with
  | false =>
      rw [hstores] at hgprs
      simp only [Operation.exec, hstores]
      ext1
      · exact hgprs
      · rfl
      · exact hflags
      · exact hip
      · rfl
  | true =>
      rw [hstores] at hgprs
      simp only [Operation.exec, hstores]
      ext1
      · exact hgprs
      · rfl
      · exact hflags
      · exact hip
      · rfl

end Accumulator

/-!
## Counting
-/

/-- The word that adds one to a register, or takes one from it. -/
def countingWord (neg : Bool) (r : BitVec 3) (next : Nat) : Microinstruction :=
  { aSel := .RA, bSel := .IMMEDIATE, immediate := some 1#16
    aluOp := if neg then .SUB else .ADD, rdSelSource := .MICROCODE_RD_SEL
    rdSel := r, updateFlags := [.OF, .SF, .ZF, .AF, .PF]
    nextInstruction := true, next := next }

def countOpcode (neg : Bool) (r : BitVec 3) : BitVec 8 :=
  (if neg then 0x48#8 else 0x40#8) + r.setWidth 8

def countEntry (neg : Bool) (r : BitVec 3) : Nat :=
  (if neg then 0x1fe else 0x1f6) + r.toNat

theorem count_program (neg : Bool) (r : BitVec 3) (c : Control) :
    c.program 1 (countOpcode neg r).toNat =
      some ([{ raSel := r, next := countEntry neg r }],
        countingWord neg r (countEntry neg r + 1)) := by
  cases neg <;> rcases reg_cases r with
    rfl | rfl | rfl | rfl | rfl | rfl | rfl | rfl <;> rfl

theorem updates_counting : Updates [.OF, .SF, .ZF, .AF, .PF] Flag.counting :=
  ⟨fun u => by cases u <;> decide, by decide⟩

/-- The word counts the register that has been selected. -/
theorem run_count (neg : Bool) (i : Rtl.ALU.Input)
    (hop : i.op = if neg then .SUB else .ADD) (hwidth : i.is8Bit = false) :
    Shows Flag.counting (Rtl.ALU.run i).flagsOut
        (sum neg i.a i.b false).conditions ∧
      (Rtl.ALU.run i).out.setWidth 16 = (sum neg i.a i.b false).value := by
  obtain ⟨a, b, is8Bit, o, flags, multibit, count⟩ := i
  dsimp only at hop hwidth
  subst hwidth
  have hword (x : BitVec 16) : x.setWidth (width false) = x :=
    BitVec.setWidth_eq x
  cases neg with
  | false =>
      have hout := run_arith .add ⟨a, b, false, o, flags, multibit, count⟩ hop
      simp only [hword] at hout
      exact ⟨hout.shows_flags.mono (fun _ => rfl), (hword _).symm.trans hout.value⟩
  | true =>
      have hout := run_arith .sub ⟨a, b, false, o, flags, multibit, count⟩ hop
      simp only [hword] at hout
      exact ⟨hout.shows_flags.mono (fun _ => rfl), (hword _).symm.trans hout.value⟩

theorem performs_count (m : Machine) (neg : Bool) (r : BitVec 3)
    (hnew : m.newIp = none) :
    Performs (countOpcode neg r).toNat m (.count neg r) := by
  refine ⟨_, retires_of_program (count_program neg r m.control), ?_⟩
  obtain ⟨hflags, hvalue⟩ := run_count neg
    { a := m.gprs r, b := 1#16, is8Bit := false
      op := if neg then .SUB else .ADD, flagsIn := m.flags.flagsOut
      multibitShift := m.multibitShift
      shiftCount := m.tmp.extractLsb' 0 5 } rfl rfl
  have hmasked := hflags.withFlags_eq (by decide) m.flags.flagsOut
  ext1
  · exact congrArg (m.gprs.set r) hvalue
  · rfl
  · exact (updates_counting.flagsOut_step _ _).trans hmasked
  · simp [countingWord, hnew]
  · rfl

end Isa
end S80x86
