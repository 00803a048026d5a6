import S80x86.Rtl.MicroProgram

/-!
# Evaluating microprograms

The simp set that turns the fold of the words of a microprogram into the
registers it leaves.
-/

open Foundation

namespace S80x86
namespace Rtl
namespace Machine
namespace Eval

theorem setWidth_sum (a b : BitVec 16) :
    (a.setWidth 17 + b.setWidth 17).setWidth 16 = a + b := by
  apply BitVec.eq_of_toNat_eq
  simp only [BitVec.toNat_setWidth, BitVec.toNat_add]
  omega

theorem setWidth_difference (a b : BitVec 16) :
    (a.setWidth 17 - b.setWidth 17).setWidth 16 = a - b := by
  apply BitVec.eq_of_toNat_eq
  simp only [BitVec.toNat_setWidth, BitVec.toNat_sub]
  omega

theorem doAdd_fst (is8Bit : Bool) (a b flags : BitVec 16) :
    (ALU.doAdd is8Bit a b flags).1 = a + b :=
  setWidth_sum a b

theorem doSub_fst (is8Bit : Bool) (a b flags : BitVec 16) :
    (ALU.doSub is8Bit a b flags).1 = a - b :=
  setWidth_difference a b

theorem setWidth_signExtend (a : BitVec 16) :
    (a.signExtend 32).setWidth 16 = a := by
  apply BitVec.eq_of_getLsbD_eq
  intro i hi
  have hwide : i < 32 := by omega
  rw [BitVec.getLsbD_setWidth, BitVec.getLsbD_signExtend]
  simp [hi, hwide]

theorem low_signExtend (v : BitVec 8) :
    (v.signExtend 16).extractLsb' 0 8 = v := by
  apply BitVec.eq_of_getLsbD_eq
  intro i hi
  have hwide : i < 16 := by omega
  rw [BitVec.getLsbD_extractLsb', BitVec.getLsbD_signExtend]
  simp [hi, hwide]

theorem setWidth_product (is8Bit isSigned : Bool) (a b flags : BitVec 16)
    (h : is8Bit = false) :
    (ALU.doMul is8Bit a b flags isSigned).1.setWidth 16 = a * b := by
  subst h
  unfold ALU.doMul
  cases isSigned with
  | false =>
      simp [BitVec.setWidth_mul]
  | true =>
      simp [BitVec.setWidth_mul, setWidth_signExtend]

theorem segments_set_set (s : SegmentRegisterFile.Registers) (n : SR)
    (v w : BitVec 16) :
    SegmentRegisterFile.set (SegmentRegisterFile.set s n v) n w =
      SegmentRegisterFile.set s n w := by
  funext x
  unfold SegmentRegisterFile.set
  split <;> rfl

theorem segments_set_self (s : SegmentRegisterFile.Registers) (n : SR)
    (v : BitVec 16) : SegmentRegisterFile.set s n v n = v := by
  unfold SegmentRegisterFile.set
  rw [if_pos rfl]

theorem segments_set_ne (s : SegmentRegisterFile.Registers) {n x : SR}
    (v : BitVec 16) (h : x ≠ n) : SegmentRegisterFile.set s n v x = s x := by
  unfold SegmentRegisterFile.set
  rw [if_neg h]

theorem gprs_set_set (g : Gprs) (n : BitVec 3) (v w : BitVec 16) :
    (g.set n v).set n w = g.set n w := by
  funext x
  unfold Gprs.set
  split <;> rfl

theorem gprs_set_self (g : Gprs) (n : BitVec 3) (v : BitVec 16) :
    g.set n v n = v := by
  unfold Gprs.set
  rw [if_pos rfl]

theorem gprs_set_ne (g : Gprs) {n x : BitVec 3} (v : BitVec 16) (h : x ≠ n) :
    g.set n v x = g x := by
  unfold Gprs.set
  rw [if_neg h]

theorem read_word (g : Gprs) (sel : BitVec 3) : g.read false sel = g sel := rfl

theorem write_word (g : Gprs) (sel : BitVec 3) (v : BitVec 16) :
    g.write false sel v = g.set sel v := rfl

theorem read_AL (g : Gprs) :
    g.read true GPR.AL = ((g GPR.AX).extractLsb' 0 8).setWidth 16 := rfl

theorem read_AH (g : Gprs) :
    g.read true GPR.AH = ((g GPR.AX).extractLsb' 8 8).setWidth 16 := rfl

theorem write_AL (g : Gprs) (v : BitVec 16) :
    g.write true GPR.AL v =
      g.set GPR.AX ((g GPR.AX).extractLsb' 8 8 ++ v.extractLsb' 0 8) := rfl

theorem write_AH (g : Gprs) (v : BitVec 16) :
    g.write true GPR.AH v =
      g.set GPR.AX (v.extractLsb' 0 8 ++ (g GPR.AX).extractLsb' 0 8) := rfl

theorem step_no_flags (flags : BitVec 16) (f : Flags) :
    Flags.step [] flags f = f := rfl

theorem sub_two_two (x : BitVec 16) : x - 2#16 - 2#16 = x - 4#16 := by
  rw [BitVec.sub_sub]
  rfl

theorem sub_four_two (x : BitVec 16) : x - 4#16 - 2#16 = x - 6#16 := by
  rw [BitVec.sub_sub]
  rfl

attribute [scoped simp] Machine.follow Machine.ready Machine.stored
  Machine.loaded Machine.waited Machine.advance Machine.retire Machine.edge
  Machine.nextGprs Machine.nextSegments Machine.srSel Machine.raSel
  Machine.rbSel Machine.alu Machine.aluOut Machine.aBus Machine.bBus
  Machine.immediate Machine.is8Bit Machine.loadedIp Machine.regWrSel
  Machine.regWrVal Machine.segWrSel

attribute [scoped simp] Microinstruction.regWrEn Microinstruction.is8Bit
  ALU.run ALU.plain TempReg.step LoopCounter.step

attribute [scoped simp] doAdd_fst doSub_fst segments_set_set
  segments_set_self segments_set_ne gprs_set_set gprs_set_self gprs_set_ne
  read_word write_word read_AL read_AH write_AL write_AH setWidth_product
  low_signExtend step_no_flags sub_two_two sub_four_two

end Eval

/-- The registers that an instruction finds, as it would leave them. -/
def arch (m : Machine) : Arch :=
  { gprs := m.gprs, segments := m.segments, flags := m.flags, ip := m.ip
    mem := m.mem }

/-!
## The operand that the ModRM byte names
-/

def operandSegment (m : Machine) : SR :=
  m.override.getD (if m.modrm.bpAsBase then .SS else .DS)

def operand (is8Bit : Bool) (m : Machine) : BitVec 16 :=
  let segment := m.segments m.operandSegment
  if m.modrm.rmIsReg then m.gprs.read is8Bit m.modrm.rmRegnum
  else if is8Bit then
    (loadByte m.mem segment m.modrm.effectiveAddress).setWidth 16
  else loadWord m.mem segment m.modrm.effectiveAddress

/-- A byte that is read is extended with zeroes. -/
theorem read_byte_low (g : Gprs) (sel : BitVec 3) :
    ((g.read true sel).extractLsb' 0 8).setWidth 16 = g.read true sel := by
  unfold Gprs.read
  dsimp only
  rw [if_pos rfl]
  split <;> rw [Bits.extractLsb'_low_setWidth]

theorem operand_byte (m : Machine) :
    ((m.operand true).extractLsb' 0 8).setWidth 16 = m.operand true := by
  unfold operand
  dsimp only
  split
  · exact read_byte_low _ _
  · rw [if_pos rfl, Bits.extractLsb'_low_setWidth]

end Machine
end Rtl
end S80x86
