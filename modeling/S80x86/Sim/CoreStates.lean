import Mathlib.Tactic.IntervalCases
import S80x86.Rtl.InstructionRuns
import S80x86.Rtl.MicroEval
import S80x86.Sim.DecoderAgrees
import S80x86.Sim.Operands
import S80x86.Sim.RegisterFilesAgree

/-!
# The emulator beside the core

What it means that both are in the same state, and that the operand of an
instruction is then the same.
-/

open Foundation

namespace S80x86
namespace Sim

variable {W : Type}

/-!
## Addresses
-/

/-- Both address the same byte. -/
theorem linear_eq (segment offset : BitVec 16) :
    Rtl.Bus.linear segment offset =
      BitVec.ofNat 20 (getPhysAddr segment offset.toNat).linear := by
  have hoffset := offset.isLt
  have hsegment := segment.isLt
  apply BitVec.eq_of_toNat_eq
  unfold Rtl.Bus.linear getPhysAddr PhysAddr.linear memorySize
  simp only [BitVec.toNat_add, BitVec.toNat_shiftLeft, BitVec.toNat_setWidth,
    BitVec.toNat_ofNat, Nat.shiftLeft_eq]
  omega

theorem linear_eq_succ (segment offset : BitVec 16) :
    Rtl.Bus.linear segment offset + 1#20 =
      BitVec.ofNat 20 ((getPhysAddr segment offset.toNat).linear + 1) := by
  rw [linear_eq, BitVec.ofNat_add]

theorem loadByte_eq (m : Memory) (segment offset : BitVec 16) :
    Rtl.Machine.loadByte m.mem segment offset =
      m.readAt .OP_WIDTH_8 (getPhysAddr segment offset.toNat).linear := by
  unfold Rtl.Machine.loadByte
  rw [linear_eq]
  rfl

theorem loadWord_eq (m : Memory) (segment offset : BitVec 16) :
    Rtl.Machine.loadWord m.mem segment offset =
      m.word (getPhysAddr segment offset.toNat).linear := by
  unfold Rtl.Machine.loadWord Rtl.Machine.loadByte
  rw [linear_eq_succ, linear_eq, Memory.word_append]

theorem storeWord_eq (m : Memory) (segment offset v : BitVec 16) :
    Rtl.Machine.storeWord m.mem segment offset v =
      (m.writeWord (getPhysAddr segment offset.toNat).linear v).mem := by
  unfold Rtl.Machine.storeWord Rtl.Machine.storeByte Memory.writeWord
  rw [linear_eq_succ, linear_eq]
  funext a
  have hhigh : v.extractLsb' 8 8 = (v >>> 8).setWidth 8 := by
    apply BitVec.eq_of_getLsbD_eq
    intro i hi
    simp [hi]
  have hlow : v.extractLsb' 0 8 = v.setWidth 8 := by
    rw [BitVec.setWidth_eq_extractLsb' (by decide)]
  rw [hhigh, hlow]
  rfl

/-!
## States
-/

def segmentRegister : Rtl.SR -> GPR
  | .ES => .ES
  | .CS => .CS
  | .SS => .SS
  | .DS => .DS

/-- The same registers, flags and memory. -/
structure SameState (e : Emulator W) (x : Rtl.Arch) : Prop where
  gprs : x.gprs = e.registers.words
  segments : forall n, x.segments n = e.registers.get (segmentRegister n)
  flags : x.flags.flagsOut = e.registers.getFlags
  mem : x.mem = e.mem.mem

/-- The core decodes the operand that the emulator has decoded. -/
structure SameOperand (e : Emulator W) (m : Rtl.Machine) : Prop where
  modrm : ModrmAgree e.modrmDecoder m.modrm
  override : m.override.map segmentRegister =
    if e.defaultSegmentOverriden then some e.overrideSegment else none

section Operand

variable {e : Emulator W} {m : Rtl.Machine} (h : SameState e m.arch)
  (h' : SameOperand e m)
include h'

theorem operandSegment_eq :
    segmentRegister m.operandSegment = e.operandSegment := by
  have hoverride := h'.override
  unfold Rtl.Machine.operandSegment Emulator.operandSegment
  rw [h'.modrm.bpAsBase]
  cases ho : m.override with
  | none =>
      cases hd : e.defaultSegmentOverriden with
      | false =>
          cases m.modrm.bpAsBase <;> rfl
      | true =>
          simp [ho, hd] at hoverride
  | some n =>
      cases hd : e.defaultSegmentOverriden with
      | false =>
          simp [ho, hd] at hoverride
      | true =>
          simpa [ho, hd] using hoverride

include h

theorem operand_eq {w : OperandWidth}
    (hwidth : e.modrmDecoder.width = w) :
    m.operand (w == .OP_WIDTH_8) = (e.operandValue w).setWidth 16 := by
  have hsegment : m.segments m.operandSegment =
      e.registers.get e.operandSegment := by
    rw [← operandSegment_eq h']
    exact h.segments _
  unfold Rtl.Machine.operand Emulator.operandValue Emulator.operandAddr
  dsimp only
  rw [hsegment, show m.mem = e.mem.mem from h.mem]
  cases hreg : m.modrm.rmIsReg with
  | true =>
      have hform := h'.modrm.form.mpr hreg
      have hget := get_selected e.registers (w == .OP_WIDTH_8)
        m.modrm.rmRegnum
      rw [if_pos rfl, if_neg (by rw [hform]; decide),
        show m.gprs = e.registers.words from h.gprs, ← hget]
      unfold ModRMDecoder.rmReg
      rw [h'.modrm.rmRegnum hreg, hwidth]
      cases w with
      | OP_WIDTH_8 =>
          change _ = ((e.registers.get (.byte m.modrm.rmRegnum)).setWidth
            8).setWidth 16
          have hbyte := Rtl.Machine.read_byte_low e.registers.words
            m.modrm.rmRegnum
          rw [← BitVec.setWidth_eq_extractLsb' (by decide)] at hbyte
          rw [← get_selected] at hbyte
          exact hbyte.symm
      | OP_WIDTH_16 =>
          exact (BitVec.setWidth_eq _).symm
  | false =>
      have hform : e.modrmDecoder.rmType = .OP_MEM := by
        apply (rmType_cases _).resolve_left
        intro hform
        rw [h'.modrm.form.mp hform] at hreg
        cases hreg
      rw [if_neg (by decide), if_pos hform, ← h'.modrm.address hreg]
      cases w with
      | OP_WIDTH_8 =>
          exact congrArg (BitVec.setWidth 16) (loadByte_eq _ _ _)
      | OP_WIDTH_16 =>
          exact (loadWord_eq _ _ _).trans (BitVec.setWidth_eq _).symm

end Operand

end Sim
end S80x86
