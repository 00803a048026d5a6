import S80x86.Isa.CoreRefines
import S80x86.Isa.Program
import S80x86.Rtl.Sequencing
import S80x86.Sim.DecoderAgrees

/-!
# The decoder and the instructions

What the decoder makes of the bytes of an instruction.
-/

namespace S80x86
namespace Isa

open Rtl Rtl.Parser

/-- The kinds of bytes after an opcode. -/
inductive Layout where
  | none
  | byte
  | word
  | far
  deriving DecidableEq, Repr

def Immediate.layout : Immediate -> Layout
  | none => .none
  | byte _ => .byte
  | word _ => .word
  | far _ _ => .far

/-- The table announces these bytes after the opcode, and no ModRM byte. -/
def Layout.announced (opcode : BitVec 8) (layout : Layout) : Bool :=
  let T := OpcodeTable.generated
  let count := T.insnImmedCount opcode 0#3
  let is8bit := T.insnImmedIs8bit opcode 0#3
  !Rtl.isPrefix opcode && !T.insnHasModrm opcode &&
    match layout with
    | none => count == 0#2
    | byte => count == 1#2 && is8bit false
    | word => count == 1#2 && !is8bit false
    | far => count == 2#2 && !is8bit false && !is8bit true

theorem Encodes.announced {opcode : BitVec 8} {immediate : Immediate}
    {op : Operation} (h : Encodes opcode immediate op) :
    immediate.layout.announced opcode = true := by
  have hreg (r : BitVec 3) :
      Layout.none.announced (0x50#8 + r.setWidth 8) = true ∧
      Layout.none.announced (0x58#8 + r.setWidth 8) = true ∧
      Layout.none.announced (0x90#8 + r.setWidth 8) = true ∧
      Layout.byte.announced (0xb0#8 + r.setWidth 8) = true ∧
      Layout.word.announced (0xb8#8 + r.setWidth 8) = true := by
    revert r
    decide +kernel
  have hcount (r : BitVec 3) :
      Layout.none.announced (0x40#8 + r.setWidth 8) = true ∧
      Layout.none.announced (0x48#8 + r.setWidth 8) = true := by
    revert r
    decide +kernel
  cases h with
  | pushWord r => exact (hreg r).1
  | popWord r => exact (hreg r).2.1
  | xchg r => exact (hreg r).2.2.1
  | movByte r v => exact (hreg r).2.2.2.1
  | movWord r v => exact (hreg r).2.2.2.2
  | jcc condition v =>
      change Layout.byte.announced _ = true
      clear v
      revert condition
      decide +kernel
  | arithByte op v =>
      change Layout.byte.announced _ = true
      cases op <;> decide +kernel
  | arithWord op v =>
      change Layout.word.announced _ = true
      cases op <;> decide +kernel
  | inc r => exact (hcount r).1
  | dec r => exact (hcount r).2
  | _ =>
      simp only [Immediate.layout]
      decide +kernel

/-- The lower and the upper byte of a word. -/
theorem word_of_little (v : BitVec 16) :
    (v.extractLsb' 8 8).setWidth 16 <<< 8 |||
      (v.extractLsb' 0 8).setWidth 16 = v := by
  apply BitVec.eq_of_getLsbD_eq
  intro i hi
  simp only [BitVec.getLsbD_or, BitVec.getLsbD_setWidth,
    BitVec.getLsbD_shiftLeft, BitVec.getLsbD_extractLsb']
  interval_cases i <;> simp

/-- An opcode that is no prefix is latched. -/
theorem latchOpcode_plain {opcode : BitVec 8} {acc : Instruction}
    (hunprefixed : Rtl.isPrefix opcode = false) :
    latchOpcode .generated acc opcode =
      { acc with
        opcode := opcode
        hasModrm := OpcodeTable.generated.insnHasModrm opcode } := by
  simp only [Rtl.isPrefix, Bool.or_eq_false_iff] at hunprefixed
  unfold latchOpcode
  simp [hunprefixed]

/-- What the decoder makes of an opcode before its immediates. -/
def latched (opcode : BitVec 8) : Instruction :=
  { Instruction.zero.addLength 1 with opcode := opcode }

/-- An opcode with a ModRM byte is not announced. -/
theorem parseInstruction_announced {opcode : BitVec 8} {layout : Layout}
    (h : layout.announced opcode = true) (bytes : List (BitVec 8)) :
    parseInstruction .generated .zero (opcode :: bytes) =
      parseImmediates .generated (latched opcode) bytes := by
  unfold Layout.announced at h
  simp only [Bool.and_eq_true, Bool.not_eq_true'] at h
  obtain ⟨⟨hunprefixed, hmodrm⟩, -⟩ := h
  have hlatch : latchOpcode .generated (Instruction.zero.addLength 1) opcode =
      latched opcode := by
    rw [latchOpcode_plain hunprefixed, hmodrm]
    rfl
  unfold parseInstruction
  simp only [hunprefixed, hmodrm, hlatch, Bool.false_eq_true, if_false]

theorem parseImmed2_word {T : OpcodeTable} {acc : Instruction}
    (h : T.insnImmedIs8bit acc.opcode acc.reg true = false)
    (low high : BitVec 8) :
    parseImmed2 T acc [low, high] =
      some ({ acc.addLength 2 with
        immediates1 := high.setWidth 16 <<< 8 ||| low.setWidth 16 }, []) := by
  unfold parseImmed2
  rw [h]
  rfl

/-- The record of an instruction. -/
structure Records (opcode : BitVec 8) (immediate : Immediate)
    (v : Instruction) : Prop where
  opcode : v.opcode = opcode
  invalid : v.invalid = false
  hasSegmentOverride : v.hasSegmentOverride = false
  hasModrm : v.hasModrm = false
  rep : v.rep = .NONE
  decoded : immediate.Decoded v

/-- The bytes of an instruction are decoded to a record of its parts. -/
theorem Immediate.parses {opcode : BitVec 8} {immediate : Immediate}
    (h : immediate.layout.announced opcode = true) :
    exists v, parseInstruction .generated .zero (opcode :: immediate.bytes) =
      some (v, []) ∧ Records opcode immediate v := by
  rw [parseInstruction_announced h]
  unfold Layout.announced at h
  rw [Bool.and_eq_true] at h
  have hlayout := h.2
  have hopcode : (latched opcode).opcode = opcode := rfl
  have hreg : (latched opcode).reg = 0#3 := by
    change (0#8).extractLsb' 3 3 = 0#3
    decide
  unfold parseImmediates parseImmed1
  rw [hopcode, hreg]
  cases immediate with
  | none =>
      simp only [layout, beq_iff_eq] at hlayout
      rw [if_pos hlayout]
      exact ⟨_, rfl, rfl, rfl, rfl, rfl, rfl, trivial⟩
  | byte v =>
      simp only [layout, Bool.and_eq_true, beq_iff_eq] at hlayout
      obtain ⟨hcount, hbyte⟩ := hlayout
      rw [hcount, hbyte, if_neg (by decide)]
      exact ⟨_, rfl, rfl, rfl, rfl, rfl, rfl, rfl⟩
  | word v =>
      simp only [layout, Bool.and_eq_true, beq_iff_eq, Bool.not_eq_true']
        at hlayout
      obtain ⟨hcount, hword⟩ := hlayout
      rw [hcount, hword, if_neg (by decide)]
      exact ⟨_, rfl, rfl, rfl, rfl, rfl, rfl, word_of_little v⟩
  | far segment offset =>
      simp only [layout, Bool.and_eq_true, beq_iff_eq, Bool.not_eq_true']
        at hlayout
      obtain ⟨⟨hcount, hfirst⟩, hsecond⟩ := hlayout
      let acc : Instruction :=
        { (latched opcode).addLength 2 with immediates0 := offset }
      have hreg' : acc.reg = 0#3 := hreg
      have hrest := @parseImmed2_word .generated acc
        (by rw [hreg']; exact hsecond) (segment.extractLsb' 0 8)
        (segment.extractLsb' 8 8)
      rw [word_of_little] at hrest
      rw [hcount, hfirst, if_neg (by decide)]
      simp only [bytes, little, List.cons_append, List.nil_append,
        takeImmediate, if_true, word_of_little]
      exact ⟨_, hrest, rfl, rfl, rfl, rfl, rfl, rfl, rfl⟩

/-- The record is one that the sequencer starts without more ado. -/
theorem Records.simple {opcode : BitVec 8} {immediate : Immediate}
    {op : Operation} {v : Instruction} (h : Records opcode immediate v)
    (hencodes : Encodes opcode immediate op) : Core.Simple v :=
  ⟨h.invalid, h.hasSegmentOverride, h.hasModrm, by
    rw [h.opcode]
    exact hencodes.plain⟩

end Isa
end S80x86
