import Mathlib.Tactic.IntervalCases
import S80x86.Sim.Stack

/-!
# Operands in memory and in registers

What the emulator reads and writes at an operand, as functions of the state.
-/

namespace S80x86
namespace Sim

open Foundation.Effect

variable {W : Type}

/-!
## Memory
-/

abbrev OperandWidth.bytes : OperandWidth -> Nat
  | .OP_WIDTH_8 => 1
  | .OP_WIDTH_16 => 2

namespace Memory

def readAt (m : Memory) : (w : OperandWidth) -> Nat -> BitVec w.bits
  | .OP_WIDTH_8, a => m.mem (BitVec.ofNat 20 a)
  | .OP_WIDTH_16, a => m.word a

def writeAt (m : Memory) : (w : OperandWidth) -> Nat -> BitVec w.bits -> Memory
  | .OP_WIDTH_8, a, v => m.write (BitVec.ofNat 20 a) v
  | .OP_WIDTH_16, a, v => m.writeWord a v

theorem readAt_writeAt (m : Memory) {w : OperandWidth} {a : Nat}
    (v : BitVec w.bits) (h : a + w.bytes ≤ memorySize) :
    (m.writeAt w a v).readAt w a = v := by
  cases w with
  | OP_WIDTH_8 =>
      simp [readAt, writeAt, write]
  | OP_WIDTH_16 =>
      exact word_writeWord v h

end Memory

section Returns

variable {env : Environment W} (henv : env.addressing = Addressing.emulator)
include henv

theorem resolve_access {e s : Emulator W} {a : Access} {f : List (BitVec 20)}
    (h : Returns (resolve a) env e f s) :
    a.addr.linear + a.size ≤ memorySize := by
  apply Classical.byContradiction
  intro hFits
  have hnone : env.addressing a = none := by
    rw [henv]
    exact if_neg hFits
  unfold Returns resolve at h
  rw [hnone] at h
  cases h

theorem readMem_returns (e : Emulator W) {w : OperandWidth} {p : PhysAddr}
    (h : p.linear + w.bytes ≤ memorySize) :
    Returns (readMem w p) env e (e.mem.readAt w p.linear) e := by
  cases w with
  | OP_WIDTH_8 =>
      refine returns_bind.mpr ⟨[BitVec.ofNat 20 p.linear], e, ?_, rfl⟩
      unfold Returns resolve
      rw [henv]
      simp only [Addressing.emulator, Access.size, AccessType.sizeof, h,
        if_true]
      rfl
  | OP_WIDTH_16 =>
      exact read16_returns henv e h

theorem readMem_fits {e s : Emulator W} {w : OperandWidth} {p : PhysAddr}
    {v : BitVec w.bits} (h : Returns (readMem w p) env e v s) :
    p.linear + w.bytes ≤ memorySize := by
  cases w with
  | OP_WIDTH_8 =>
      obtain ⟨f, e₁, hresolve, _⟩ := returns_bind.mp h
      have hfits := resolve_access henv hresolve
      simpa only [Access.size, AccessType.sizeof] using hfits
  | OP_WIDTH_16 =>
      obtain ⟨f, e₁, hresolve, _⟩ := returns_bind.mp h
      have hfits := resolve_access henv hresolve
      simpa only [Access.size, AccessType.sizeof] using hfits

theorem writeMem_returns (e : Emulator W) {w : OperandWidth} {p : PhysAddr}
    (v : BitVec w.bits) (h : p.linear + w.bytes ≤ memorySize) :
    Returns (writeMem w p v) env e ()
      { e with mem := e.mem.writeAt w p.linear v } := by
  cases w with
  | OP_WIDTH_8 =>
      refine returns_bind.mpr ⟨[BitVec.ofNat 20 p.linear], e, ?_, rfl⟩
      unfold Returns resolve
      rw [henv]
      simp only [Addressing.emulator, Access.size, AccessType.sizeof, h,
        if_true]
      rfl
  | OP_WIDTH_16 =>
      exact write16_returns henv e v h

end Returns

/-!
## Registers
-/

namespace RegisterFile

theorem setWidth_lowByte (x : BitVec 16) (v : BitVec 8) :
    (lowByte x (v.setWidth 16) &&& 0x00ff#16).setWidth 8 = v := by
  ext i hi
  unfold lowByte
  interval_cases i <;> simp

theorem setWidth_highByte (x : BitVec 16) (v : BitVec 8) :
    (highByte x (v.setWidth 16) >>> 8).setWidth 8 = v := by
  ext i hi
  unfold highByte
  interval_cases i <;> simp

/-- A register of the operand width holds what was written to it. -/
theorem get_set_gpr (r : RegisterFile) (w : OperandWidth) (n : BitVec 3)
    (v : BitVec w.bits) :
    ((r.set (ModRMDecoder.gpr w n) (v.setWidth 16)).get
      (ModRMDecoder.gpr w n)).setWidth w.bits = v := by
  cases w with
  | OP_WIDTH_8 =>
      have hcases : forall k : BitVec 3,
          (k = 0#3 ∨ k = 1#3 ∨ k = 2#3 ∨ k = 3#3) ∨
            k = 4#3 ∨ k = 5#3 ∨ k = 6#3 ∨ k = 7#3 := by
        decide
      rcases hcases n with (rfl | rfl | rfl | rfl) | rfl | rfl | rfl | rfl
      · exact setWidth_lowByte r.ax v
      · exact setWidth_lowByte r.cx v
      · exact setWidth_lowByte r.dx v
      · exact setWidth_lowByte r.bx v
      · exact setWidth_highByte r.ax v
      · exact setWidth_highByte r.cx v
      · exact setWidth_highByte r.dx v
      · exact setWidth_highByte r.bx v
  | OP_WIDTH_16 =>
      have hword : forall k : BitVec 3,
          (r.set (GPR.word k) v).get (GPR.word k) = v := by
        intro k
        unfold GPR.word
        split <;> rfl
      simpa [ModRMDecoder.gpr] using hword n

end RegisterFile

theorem getDxAx_returns (env : Environment W) (e : Emulator W) :
    Returns getDxAx env e (e.registers.dx ++ e.registers.ax) e := by
  have hword : e.registers.dx ++ e.registers.ax =
      e.registers.dx.setWidth 32 <<< 16 ||| e.registers.ax.setWidth 32 := by
    apply BitVec.eq_of_getLsbD_eq
    intro i hi
    simp only [BitVec.getLsbD_append]
    interval_cases i <;> simp
  rw [hword]
  rfl

/-!
## The operand a ModRM byte names
-/

namespace Emulator

/-- A ModRM byte is decoded, and the address of a memory operand is known. -/
structure Decoded (s : Emulator W) : Prop where
  isDecoded : s.modrmDecoder.isDecoded = true
  addrIsCached :
    s.modrmDecoder.rmType = .OP_MEM -> s.modrmDecoder.addrIsCached = true

variable (s : Emulator W) (w : OperandWidth)

def operandSegment : GPR :=
  if s.defaultSegmentOverriden then s.overrideSegment
  else if s.modrmDecoder.usesBpAsBase then .SS
  else .DS

def operandAddr : PhysAddr :=
  getPhysAddr (s.registers.get s.operandSegment)
    s.modrmDecoder.cachedAddress.toNat

def operandFits : Prop :=
  s.modrmDecoder.rmType = .OP_MEM ->
    s.operandAddr.linear + w.bytes ≤ memorySize

def operandValue : BitVec w.bits :=
  if s.modrmDecoder.rmType = .OP_MEM then
    s.mem.readAt w s.operandAddr.linear
  else (s.registers.get s.modrmDecoder.rmReg).setWidth w.bits

def operandWritten (v : BitVec w.bits) : Emulator W :=
  if s.modrmDecoder.rmType = .OP_MEM then
    { s with mem := s.mem.writeAt w s.operandAddr.linear v }
  else
    { s with registers := s.registers.set s.modrmDecoder.rmReg (v.setWidth 16) }

theorem operandWritten_modrmDecoder (v : BitVec w.bits) :
    (s.operandWritten w v).modrmDecoder = s.modrmDecoder := by
  unfold operandWritten
  split <;> rfl

end Emulator

section Returns

variable {env : Environment W} {s : Emulator W} {w : OperandWidth}

theorem effectiveAddress_returns (h : s.Decoded)
    (hmem : s.modrmDecoder.rmType = .OP_MEM) :
    Returns effectiveAddress env s s.modrmDecoder.cachedAddress s := by
  refine returns_bind.mpr ⟨_, _, decoded_returns _ h.isDecoded, ?_⟩
  rw [h.addrIsCached hmem]
  rfl

theorem getSegment_returns :
    Returns (getSegment false) env s s.operandSegment s := by
  refine returns_bind.mpr ⟨_, _, rfl, ?_⟩
  unfold Emulator.operandSegment
  cases hoverride : s.defaultSegmentOverriden with
  | false =>
      simp only [hoverride, Bool.false_eq_true, if_false]
      refine returns_bind.mpr ⟨s.modrmDecoder.usesBpAsBase, s, rfl, ?_⟩
      rw [Bool.or_false]
      rfl
  | true =>
      simp only [hoverride, if_true]
      rfl

theorem operandAddr_returns (h : s.Decoded)
    (hmem : s.modrmDecoder.rmType = .OP_MEM) :
    Returns (operandAddr false) env s s.operandAddr s := by
  refine returns_bind.mpr ⟨_, _, effectiveAddress_returns h hmem, ?_⟩
  refine returns_bind.mpr ⟨_, _, getSegment_returns, ?_⟩
  rfl

variable (henv : env.addressing = Addressing.emulator)
include henv

theorem readData_returns (h : s.Decoded) (hFits : s.operandFits w) :
    Returns (readData w false) env s (s.operandValue w) s := by
  refine returns_bind.mpr ⟨_, _, decoded_returns _ h.isDecoded, ?_⟩
  unfold Emulator.operandValue
  by_cases hmem : s.modrmDecoder.rmType = .OP_MEM
  · rw [if_pos hmem, if_pos hmem]
    refine returns_bind.mpr ⟨_, _, operandAddr_returns h hmem, ?_⟩
    exact readMem_returns henv s (hFits hmem)
  · have hreg : s.modrmDecoder.rmType = .OP_REG :=
      (rmType_cases s.modrmDecoder).resolve_right hmem
    rw [if_neg hmem, if_neg hmem]
    refine returns_bind.mpr ⟨s.modrmDecoder.rmReg, s, ?_, rfl⟩
    refine returns_bind.mpr ⟨_, _, decoded_returns _ h.isDecoded, ?_⟩
    rw [hreg]
    exact decoded_returns _ h.isDecoded

theorem readData_fits {t : Emulator W} {v : BitVec w.bits} (h : s.Decoded)
    (hread : Returns (readData w false) env s v t) : s.operandFits w := by
  intro hmem
  obtain ⟨type, s₁, htype, hread⟩ := returns_bind.mp hread
  obtain ⟨rfl, rfl⟩ := htype.unique (decoded_returns _ h.isDecoded)
  rw [if_pos hmem] at hread
  obtain ⟨addr, s₂, haddr, hread⟩ := returns_bind.mp hread
  obtain ⟨rfl, rfl⟩ := haddr.unique (operandAddr_returns h hmem)
  exact readMem_fits henv hread

theorem writeData_returns (h : s.Decoded) (hFits : s.operandFits w)
    (v : BitVec w.bits) :
    Returns (writeData w v false) env s () (s.operandWritten w v) := by
  refine returns_bind.mpr ⟨_, _, decoded_returns _ h.isDecoded, ?_⟩
  unfold Emulator.operandWritten
  by_cases hmem : s.modrmDecoder.rmType = .OP_MEM
  · have hreg : ¬ s.modrmDecoder.rmType = .OP_REG := by
      rw [hmem]
      decide
    rw [if_pos hmem, if_neg hreg]
    refine returns_bind.mpr ⟨_, _, operandAddr_returns h hmem, ?_⟩
    exact writeMem_returns henv s v (hFits hmem)
  · have hreg : s.modrmDecoder.rmType = .OP_REG :=
      (rmType_cases s.modrmDecoder).resolve_right hmem
    rw [if_neg hmem, if_pos hreg]
    refine returns_bind.mpr ⟨s.modrmDecoder.rmReg, s, ?_, rfl⟩
    refine returns_bind.mpr ⟨_, _, decoded_returns _ h.isDecoded, ?_⟩
    rw [hreg]
    exact decoded_returns _ h.isDecoded

end Returns

/-- The operand holds what was written to it. -/
theorem operandValue_operandWritten {s : Emulator W} {w : OperandWidth}
    (hFits : s.operandFits w) (hwidth : s.modrmDecoder.width = w)
    (v : BitVec w.bits) : (s.operandWritten w v).operandValue w = v := by
  unfold Emulator.operandValue
  rw [Emulator.operandWritten_modrmDecoder]
  unfold Emulator.operandWritten
  by_cases hmem : s.modrmDecoder.rmType = .OP_MEM
  · rw [if_pos hmem, if_pos hmem]
    exact Memory.readAt_writeAt s.mem v (hFits hmem)
  · rw [if_neg hmem, if_neg hmem]
    unfold ModRMDecoder.rmReg
    rw [hwidth]
    exact RegisterFile.get_set_gpr s.registers w _ v

/-!
## After decoding
-/

theorem afterDecode_decoded (e : Emulator W) : e.afterDecode.Decoded := by
  constructor
  · unfold Emulator.afterDecode Emulator.decoderAfter
    dsimp only
    split <;> rfl
  · intro hmem
    unfold Emulator.afterDecode Emulator.decoderAfter at hmem ⊢
    dsimp only at hmem ⊢
    split
    · rfl
    · next hneg =>
        rw [if_neg hneg] at hmem
        exact absurd hmem hneg

theorem afterDecode_width (e : Emulator W) :
    e.afterDecode.modrmDecoder.width = e.modrmDecoder.width := by
  unfold Emulator.afterDecode Emulator.decoderAfter
  dsimp only
  split <;> rfl

/-- The state after a width is set and the ModRM byte is decoded. -/
def Emulator.decodedFor (w : OperandWidth) (e : Emulator W) : Emulator W :=
  { e with modrmDecoder := { e.modrmDecoder with width := w } }.afterDecode

theorem decodedFor_decoded (w : OperandWidth) (e : Emulator W) :
    (e.decodedFor w).Decoded :=
  afterDecode_decoded _

theorem Emulator.decodedFor_rawReg (w : OperandWidth) (e : Emulator W) :
    (e.decodedFor w).modrmDecoder.rawReg =
      (e.codeByte e.instrLength).extractLsb' 3 3 := by
  unfold decodedFor afterDecode decoderAfter
  dsimp only
  split <;> rfl

end Sim
end S80x86
