import S80x86.Rtl.RomEntries

/-!
# The microcode store

The words that the assembler places after the fixed addresses, one list for
each source file and in the order of their addresses, and the store as the
sequencer reads it.  Macros of the microprograms are functions here.
-/

namespace S80x86
namespace Rtl
namespace Microcode

open GPR

/-!
## Macros
-/

def writeComplete : Nat := 0x499

def write16Complete : Nat := 0x498

/-- `ARITH_REGMEM_REG`, `ARITH_REG_REGMEM`, `ARITH_REGMEM_A`, `ARITH_80_81` and
`ARITH_83`; `reversed` is the operation of the second. -/
def arithmetic (base : Nat) (op reversed : ALUOp) (flags : List UpdateFlags) :
    List Microinstruction :=
  [
    { aluOp := op, rdSelSource := .MODRM_RM_REG, updateFlags := flags
      width := .WAUTO, nextInstruction := true, next := base + 1 },
    { segment := .DS, memRead := true, width := .WAUTO, next := base + 2 },
    { aSel := .MDR, aluOp := op, mdrWrite := true, updateFlags := flags
      width := .WAUTO, segment := .DS, next := writeComplete },
    { aluOp := reversed, rdSelSource := .MODRM_REG, updateFlags := flags
      width := .WAUTO, nextInstruction := true, next := base + 4 },
    { segment := .DS, memRead := true, width := .WAUTO, next := base + 5 },
    { aSel := .MDR, aluOp := reversed, rdSelSource := .MODRM_REG
      updateFlags := flags, width := .WAUTO, nextInstruction := true
      next := base + 6 },
    { bSel := .IMMEDIATE, aluOp := op, rdSelSource := .MICROCODE_RD_SEL
      rdSel := AL, updateFlags := flags, width := .WAUTO
      nextInstruction := true, next := base + 7 },
    { bSel := .IMMEDIATE, aluOp := op, rdSelSource := .MODRM_RM_REG
      width := .WAUTO, updateFlags := flags, nextInstruction := true
      next := base + 8 },
    { segment := .DS, memRead := true, width := .WAUTO, next := base + 9 },
    { aSel := .MDR, bSel := .IMMEDIATE, aluOp := op, mdrWrite := true
      updateFlags := flags, segment := .DS, width := .WAUTO
      next := writeComplete },
    { raModrmRmReg := true, next := base + 12 },
    { raModrmRmReg := true, segment := .DS, next := base + 13 },
    { bSel := .IMMEDIATE, aluOp := op, rdSelSource := .MODRM_RM_REG
      updateFlags := flags, nextInstruction := true, next := base + 13 },
    { segment := .DS, memRead := true, next := base + 14 },
    { aSel := .MDR, bSel := .IMMEDIATE, aluOp := op, mdrWrite := true
      updateFlags := flags, segment := .DS, next := write16Complete }
  ]

/-- A comparison of the register or memory operand with another: the register
form, then the memory form. -/
def compared (base : Nat) (op : ALUOp) (operand : BDriver) (width : WidthType)
    (flags : List UpdateFlags) : List Microinstruction :=
  [
    { bSel := operand, aluOp := op, updateFlags := flags, width := width
      nextInstruction := true, next := base + 1 },
    { segment := .DS, memRead := true, width := width, next := base + 2 },
    { aSel := .MDR, bSel := operand, aluOp := op, updateFlags := flags
      width := width, nextInstruction := true, next := base + 3 }
  ]

/-- `COMP_REGMEM_A`. -/
def comparedA (base : Nat) (op : ALUOp) (flags : List UpdateFlags) :
    Microinstruction :=
  { bSel := .IMMEDIATE, aluOp := op, updateFlags := flags, width := .WAUTO
    nextInstruction := true, next := base + 1 }

/-- `SHIFT1`, `SHIFTN`, `SHIFTN_IMM8` and `SHIFTN_IMM16`. -/
def shifts (base : Nat) (op : ALUOp) (flags1 flagsN : List UpdateFlags) :
    List Microinstruction :=
  [
    { bSel := .IMMEDIATE, immediate := some 0x1#16, aluOp := op
      rdSelSource := .MODRM_RM_REG, updateFlags := flags1, width := .WAUTO
      nextInstruction := true, next := base + 1 },
    { segment := .DS, memRead := true, width := .WAUTO, next := base + 2 },
    { width := .WAUTO, aSel := .MDR, bSel := .IMMEDIATE
      immediate := some 0x1#16, aluOp := op, mdrWrite := true
      updateFlags := flags1, segment := .DS, next := writeComplete },
    { raModrmRmReg := true, aluOp := .SELB, tmpWrEn := true, width := .WAUTO
      segment := .DS, jumpType := .RM_REG_MEM, next := base + 4 },
    { aluOp := op, rdSelSource := .MODRM_RM_REG, updateFlags := flagsN
      width := .WAUTO, tmpWrSel := .Q_HIGH, tmpWrEn := true
      nextInstruction := true, raModrmRmReg := true, next := base + 5 },
    { segment := .DS, memRead := true, width := .WAUTO, rbCl := true
      next := base + 6 },
    { width := .WAUTO, aSel := .MDR, aluOp := op, mdrWrite := true
      updateFlags := flagsN, segment := .DS, tmpWrSel := .Q_HIGH
      tmpWrEn := true, next := writeComplete },
    { bSel := .IMMEDIATE, aluOp := op, rdSelSource := .MODRM_RM_REG
      updateFlags := flagsN, width := .WAUTO, tmpWrSel := .Q_HIGH
      tmpWrEn := true, nextInstruction := true, raModrmRmReg := true
      next := base + 8 },
    { segment := .DS, memRead := true, width := .WAUTO, next := base + 9 },
    { width := .WAUTO, aSel := .MDR, bSel := .IMMEDIATE, aluOp := op
      mdrWrite := true, updateFlags := flagsN, segment := .DS
      tmpWrSel := .Q_HIGH, tmpWrEn := true, next := writeComplete },
    { tmpWrEn := true, aluOp := .SELB, bSel := .IMMEDIATE
      raModrmRmReg := true, segment := .DS, jumpType := .RM_REG_MEM
      next := base + 7 }
  ]

/-!
## Microprograms
-/

def aaaWords : List Microinstruction :=
  [
    { aluOp := .AAA, rdSelSource := .MICROCODE_RD_SEL, rdSel := AX,
      updateFlags := [.AF, .CF], nextInstruction := true, next := 0x131 }
  ]

def aadWords : List Microinstruction :=
  [
    { bSel := .IMMEDIATE, aluOp := .IMUL, tmpWrEn := true, next := 0x132 },
    { width := .W8, raSel := AL, next := 0x133 },
    { bSel := .TEMP, aluOp := .ADD, updateFlags := [.SF, .ZF, .PF],
      rdSelSource := .MICROCODE_RD_SEL, rdSel := AX, next := 0x134 },
    { width := .W8, bSel := .IMMEDIATE, immediate := some 0x0#16,
      aluOp := .SELB, rdSelSource := .MICROCODE_RD_SEL, rdSel := AH,
      nextInstruction := true, next := 0x135 }
  ]

def aasWords : List Microinstruction :=
  [
    { aluOp := .AAS, rdSelSource := .MICROCODE_RD_SEL, rdSel := AX,
      updateFlags := [.AF, .CF], nextInstruction := true, next := 0x136 }
  ]

def adcWords : List Microinstruction :=
  arithmetic 0x136 .ADC .ADC [.OF, .SF, .ZF, .AF, .CF, .PF]

def addWords : List Microinstruction :=
  arithmetic 0x145 .ADD .ADD [.OF, .SF, .ZF, .AF, .CF, .PF]

def andWords : List Microinstruction :=
  arithmetic 0x154 .AND .AND [.OF, .SF, .ZF, .CF, .PF]

def boundWords : List Microinstruction :=
  [
    { bSel := .IMMEDIATE, immediate := some 0x18#16, aluOp := .SELB,
      tmpWrEn := true, next := 0x12d },
    { aluOp := .GETFLAGS, tmpWrEn := true, segment := .DS, memRead := true,
      next := 0x165 },
    { aSel := .MDR, aluOp := .BOUNDL, updateFlags := [.CF], next := 0x166 },
    { aSel := .MAR, bSel := .IMMEDIATE, immediate := some 0x2#16,
      aluOp := .ADD, marWrite := true, marWrSel := .Q, segment := .DS,
      jumpType := .JUMP_TAKEN, next := 0x16b },
    { segment := .DS, memRead := true, next := 0x168 },
    { aSel := .MDR, aluOp := .BOUNDH, updateFlags := [.CF], next := 0x169 },
    { jumpType := .JUMP_TAKEN, next := 0x16b },
    { bSel := .TEMP, aluOp := .SETFLAGSB, updateFlags := [.CF],
      nextInstruction := true, next := 0x16b },
    { bSel := .TEMP, aluOp := .SETFLAGSB, updateFlags := [.CF],
      next := 0x16c },
    { bSel := .IMMEDIATE, immediate := some 0x14#16, aluOp := .SELB,
      tmpWrEn := true, next := 0x12d }
  ]

def daaWords : List Microinstruction :=
  [
    { aluOp := .DAA, rdSelSource := .MICROCODE_RD_SEL, rdSel := AX,
      updateFlags := [.SF, .ZF, .AF, .CF, .PF], nextInstruction := true,
      next := 0x16e }
  ]

def dasWords : List Microinstruction :=
  [
    { aluOp := .DAS, rdSelSource := .MICROCODE_RD_SEL, rdSel := AX,
      updateFlags := [.SF, .ZF, .AF, .CF, .PF], nextInstruction := true,
      next := 0x16f }
  ]

def callWords : List Microinstruction :=
  [
    { bSel := .IMMEDIATE, immediate := some 0x2#16, aluOp := .SUB,
      rdSel := SP, rdSelSource := .MICROCODE_RD_SEL, marWrite := true,
      marWrSel := .Q, next := 0x170 },
    { aSel := .IP, mdrWrite := true, raSel := SP, segment := .SS,
      segmentForce := true, next := 0x171 },
    { segment := .SS, segmentForce := true, memWrite := true, aSel := .IP,
      bSel := .IMMEDIATE, aluOp := .ADD, loadIp := true,
      nextInstruction := true, next := 0x172 },
    { loadIp := true, raSel := SP, next := 0x175 },
    { segment := .DS, memRead := true, next := 0x174 },
    { aSel := .MDR, loadIp := true, raSel := SP, next := 0x175 },
    { bSel := .IMMEDIATE, immediate := some 0x2#16, aluOp := .SUB,
      rdSel := SP, rdSelSource := .MICROCODE_RD_SEL, marWrite := true,
      marWrSel := .Q, next := 0x176 },
    { aSel := .IP, mdrWrite := true, raSel := SP, segment := .SS,
      segmentForce := true, next := 0x177 },
    { segment := .SS, segmentForce := true, memWrite := true,
      nextInstruction := true, next := 0x178 },
    { bSel := .SR, aluOp := .SELB, mdrWrite := true, raSel := SP,
      next := 0x179 },
    { bSel := .IMMEDIATE, immediate := some 0x2#16, aluOp := .SUB,
      rdSel := SP, rdSelSource := .MICROCODE_RD_SEL, marWrite := true,
      marWrSel := .Q, segmentForce := true, segment := .SS, next := 0x17a },
    { segmentForce := true, segment := .SS, memWrite := true, raSel := SP,
      next := 0x17b },
    { bSel := .IMMEDIATE, immediate := some 0x2#16, aluOp := .SUB,
      rdSel := SP, rdSelSource := .MICROCODE_RD_SEL, marWrite := true,
      marWrSel := .Q, next := 0x17c },
    { aSel := .IP, mdrWrite := true, segmentForce := true, segment := .SS,
      next := 0x17d },
    { segmentForce := true, segment := .SS, memWrite := true, next := 0x17e },
    { bSel := .IMMEDIATE2, aluOp := .SELB, segmentForce := true,
      segment := .CS, segmentWrEn := true, nextInstruction := true,
      next := 0x17f },
    { nextInstruction := true, next := 0x180 },
    { bSel := .SR, aluOp := .SELB, mdrWrite := true, raSel := SP,
      next := 0x181 },
    { bSel := .IMMEDIATE, immediate := some 0x2#16, aluOp := .SUB,
      rdSel := SP, rdSelSource := .MICROCODE_RD_SEL, marWrite := true,
      marWrSel := .Q, segmentForce := true, segment := .SS, next := 0x182 },
    { segmentForce := true, segment := .SS, memWrite := true, raSel := SP,
      next := 0x183 },
    { bSel := .IMMEDIATE, immediate := some 0x2#16, aluOp := .SUB,
      rdSel := SP, rdSelSource := .MICROCODE_RD_SEL, marWrite := true,
      marWrSel := .Q, next := 0x184 },
    { aSel := .IP, mdrWrite := true, segmentForce := true, segment := .SS,
      next := 0x185 },
    { segmentForce := true, segment := .SS, memWrite := true, next := 0x186 },
    { marWrite := true, segment := .DS, next := 0x187 },
    { segment := .DS, memRead := true, next := 0x188 },
    { aSel := .MDR, loadIp := true, next := 0x189 },
    { aSel := .MAR, bSel := .IMMEDIATE, immediate := some 0x2#16,
      aluOp := .ADD, marWrSel := .Q, marWrite := true, segment := .DS,
      next := 0x18a },
    { segment := .DS, memRead := true, next := 0x18b },
    { aSel := .MDR, segmentWrEn := true, segmentForce := true, segment := .CS,
      nextInstruction := true, next := 0x18c }
  ]

def cmpWords : List Microinstruction :=
  let flags : List UpdateFlags := [.OF, .SF, .ZF, .AF, .CF, .PF]
  compared 0x18c .SUB .RB .WAUTO flags ++
  compared 0x18f .SUBREV .RB .WAUTO flags ++
  [comparedA 0x192 .SUB flags] ++
  compared 0x193 .SUB .IMMEDIATE .WAUTO flags ++
  [
    { raModrmRmReg := true, next := 0x198 },
    { raModrmRmReg := true, segment := .DS, next := 0x199 }
  ] ++ compared 0x198 .SUB .IMMEDIATE .W16 flags

def cmpsWords : List Microinstruction :=
  [
    { raSel := DI, rbCl := true, jumpType := .HAS_NO_REP_PREFIX,
      next := 0x19e },
    { raSel := CX, jumpType := .RB_ZERO, next := 0x1a6 },
    { raSel := DI, bSel := .IMMEDIATE, immediate := some 0x1#16,
      aluOp := .SUB, rdSelSource := .MICROCODE_RD_SEL, rdSel := CX,
      next := 0x19e },
    { raSel := DI, marWrSel := .Q, marWrite := true, segment := .ES,
      segmentForce := true, next := 0x19f },
    { width := .W8, segment := .ES, segmentForce := true, memRead := true,
      aSel := .MDR, tmpWrEn := true, next := 0x1a0 },
    { aSel := .MAR, bSel := .IMMEDIATE, immediate := some 0x1#16,
      aluOp := .NEXT, rdSelSource := .MICROCODE_RD_SEL, rdSel := DI,
      raSel := SI, next := 0x1a1 },
    { marWrSel := .Q, marWrite := true, segment := .DS, raSel := SI,
      next := 0x1a2 },
    { bSel := .IMMEDIATE, immediate := some 0x1#16, aluOp := .NEXT,
      rdSelSource := .MICROCODE_RD_SEL, rdSel := SI, segment := .DS,
      next := 0x1a3 },
    { width := .W8, segment := .DS, memRead := true, next := 0x1a4 },
    { width := .W8, aSel := .MDR, bSel := .TEMP, aluOp := .SUB,
      updateFlags := [.OF, .SF, .ZF, .CF, .PF, .AF],
      jumpType := .HAS_NO_REP_PREFIX, next := 0x1a6 },
    { rbCl := true, aluOp := .GETFLAGS, extIntYield := true,
      jumpType := .REP_NOT_COMPLETE, next := 0x19c },
    { nextInstruction := true, next := 0x1a7 },
    { raSel := DI, rbCl := true, jumpType := .HAS_NO_REP_PREFIX,
      next := 0x1aa },
    { raSel := CX, jumpType := .RB_ZERO, next := 0x1b1 },
    { raSel := DI, bSel := .IMMEDIATE, immediate := some 0x1#16,
      aluOp := .SUB, rdSelSource := .MICROCODE_RD_SEL, rdSel := CX,
      next := 0x1aa },
    { raSel := DI, marWrSel := .Q, marWrite := true, segment := .ES,
      segmentForce := true, next := 0x1ab },
    { segment := .ES, segmentForce := true, memRead := true, aSel := .MDR,
      tmpWrEn := true, raSel := DI, next := 0x1ac },
    { bSel := .IMMEDIATE, immediate := some 0x2#16, aluOp := .NEXT,
      rdSelSource := .MICROCODE_RD_SEL, rdSel := DI, raSel := SI,
      next := 0x1ad },
    { marWrSel := .Q, marWrite := true, segment := .DS, raSel := SI,
      next := 0x1ae },
    { bSel := .IMMEDIATE, immediate := some 0x2#16, aluOp := .NEXT,
      rdSelSource := .MICROCODE_RD_SEL, rdSel := SI, segment := .DS,
      next := 0x1af },
    { segment := .DS, memRead := true, aSel := .MDR, bSel := .TEMP,
      aluOp := .SUB, updateFlags := [.OF, .SF, .ZF, .CF, .PF, .AF],
      jumpType := .HAS_NO_REP_PREFIX, next := 0x1b1 },
    { rbCl := true, aluOp := .GETFLAGS, extIntYield := true,
      jumpType := .REP_NOT_COMPLETE, next := 0x1a8 },
    { nextInstruction := true, next := 0x1b2 }
  ]

def divWords : List Microinstruction :=
  [
    { width := .W8, mdrWrite := true, next := 0x1b4 },
    { width := .W8, segment := .DS, memRead := true, next := 0x1b4 },
    { raSel := AX, next := 0x1b5 },
    { tmpWrEn := true, next := 0x1b6 },
    { width := .W8, aluOp := .DIV, next := 0x1b7 },
    { width := .W8, regWrSource := .QUOTIENT,
      rdSelSource := .MICROCODE_RD_SEL, rdSel := AL, next := 0x1b8 },
    { width := .W8, regWrSource := .REMAINDER,
      rdSelSource := .MICROCODE_RD_SEL, rdSel := AH, nextInstruction := true,
      next := 0x1b9 },
    { mdrWrite := true, raSel := AX, next := 0x1bb },
    { segment := .DS, memRead := true, raSel := AX, next := 0x1bb },
    { tmpWrEn := true, raSel := DX, next := 0x1bc },
    { raSel := DX, aluOp := .DIV, next := 0x1bd },
    { regWrSource := .QUOTIENT, rdSelSource := .MICROCODE_RD_SEL, rdSel := AX,
      next := 0x1be },
    { regWrSource := .REMAINDER, rdSelSource := .MICROCODE_RD_SEL,
      rdSel := DX, nextInstruction := true, next := 0x1bf },
    { width := .W8, mdrWrite := true, next := 0x1c1 },
    { width := .W8, segment := .DS, memRead := true, next := 0x1c1 },
    { raSel := AX, next := 0x1c2 },
    { tmpWrEn := true, next := 0x1c3 },
    { width := .W8, aluOp := .IDIV, next := 0x1b7 },
    { mdrWrite := true, raSel := AX, next := 0x1c6 },
    { segment := .DS, memRead := true, raSel := AX, next := 0x1c6 },
    { tmpWrEn := true, raSel := DX, next := 0x1c7 },
    { raSel := DX, aluOp := .IDIV, next := 0x1bd },
    { width := .W8, raSel := AL, next := 0x1c9 },
    { tmpWrEn := true, next := 0x1ca },
    { width := .W8, aluOp := .DIV, next := 0x1cb },
    { width := .W8, regWrSource := .QUOTIENT,
      rdSelSource := .MICROCODE_RD_SEL, rdSel := AH, next := 0x1cc },
    { width := .W8, regWrSource := .REMAINDER,
      rdSelSource := .MICROCODE_RD_SEL, rdSel := AL, next := 0x1cd },
    { raSel := AX, next := 0x1ce },
    { bSel := .IMMEDIATE, immediate := some 0x0#16, aluOp := .ADD,
      updateFlags := [.SF, .ZF, .PF], nextInstruction := true, next := 0x1cf }
  ]

def enterWords : List Microinstruction :=
  [
    { bSel := .IMMEDIATE, immediate := some 0x2#16, aluOp := .SUB,
      marWrite := true, marWrSel := .Q, raSel := BP,
      rdSelSource := .MICROCODE_RD_SEL, rdSel := SP, next := 0x1d0 },
    { mdrWrite := true, segmentForce := true, segment := .SS, next := 0x1d1 },
    { segmentForce := true, segment := .SS, memWrite := true, raSel := SP,
      jumpType := .LOOP_DONE, next := 0x1e0 },
    { bSel := .IMMEDIATE2, aluOp := .ENTER_FRAME_TEMP_ADDR, marWrite := true,
      marWrSel := .Q, raSel := SP, next := 0x1d3 },
    { mdrWrite := true, segmentForce := true, segment := .SS, next := 0x1d4 },
    { segmentForce := true, segment := .SS, memWrite := true, next := 0x1d5 },
    { raSel := BP, jumpType := .LOOP_DONE, next := 0x1db },
    { bSel := .IMMEDIATE, immediate := some 0x2#16, aluOp := .SUB,
      rdSel := BP, rdSelSource := .MICROCODE_RD_SEL, segmentForce := true,
      segment := .SS, marWrite := true, marWrSel := .Q, next := 0x1d7 },
    { segmentForce := true, segment := .SS, memRead := true, raSel := SP,
      next := 0x1d8 },
    { bSel := .IMMEDIATE, immediate := some 0x2#16, aluOp := .SUB,
      rdSel := SP, rdSelSource := .MICROCODE_RD_SEL, segmentForce := true,
      segment := .SS, marWrite := true, marWrSel := .Q, next := 0x1d9 },
    { segmentForce := true, segment := .SS, memWrite := true, next := 0x1da },
    { next := 0x1d5 },
    { raSel := SP, next := 0x1dc },
    { bSel := .IMMEDIATE, immediate := some 0x2#16, aluOp := .SUB,
      rdSel := SP, rdSelSource := .MICROCODE_RD_SEL, segmentForce := true,
      segment := .SS, marWrite := true, marWrSel := .Q, next := 0x1dd },
    { segmentForce := true, segment := .SS, memRead := true, raSel := SP,
      next := 0x1de },
    { aSel := .MDR, rdSel := BP, rdSelSource := .MICROCODE_RD_SEL,
      raSel := SP, next := 0x1df },
    { bSel := .TEMP, aluOp := .SUB, rdSel := SP,
      rdSelSource := .MICROCODE_RD_SEL, nextInstruction := true,
      next := 0x1e0 },
    { rdSel := BP, rdSelSource := .MICROCODE_RD_SEL, raSel := SP,
      next := 0x1e1 },
    { bSel := .TEMP, aluOp := .SUB, rdSel := SP,
      rdSelSource := .MICROCODE_RD_SEL, nextInstruction := true,
      next := 0x1e2 }
  ]

def escWords : List Microinstruction :=
  [
    { nextInstruction := true, next := 0x1e3 }
  ]

def extendWords : List Microinstruction :=
  [
    { width := .W8, bSel := .IMMEDIATE, aluOp := .EXTEND,
      rdSelSource := .MICROCODE_RD_SEL, rdSel := AH, nextInstruction := true,
      next := 0x1e4 },
    { bSel := .IMMEDIATE, aluOp := .EXTEND, rdSelSource := .MICROCODE_RD_SEL,
      rdSel := DX, nextInstruction := true, next := 0x1e5 }
  ]

def flagsWords : List Microinstruction :=
  [
    { aluOp := .SETFLAGSA, updateFlags := [.CF, .PF, .AF, .ZF, .SF],
      nextInstruction := true, next := 0x1e6 },
    { width := .W8, aluOp := .SBB, rdSelSource := .MICROCODE_RD_SEL,
      rdSel := AL, nextInstruction := true, next := 0x1e7 }
  ]

def hltWords : List Microinstruction :=
  [
    { extIntYield := true, next := 0x1e7 }
  ]

def incWords : List Microinstruction :=
  [
    { width := .W8, raModrmRmReg := true, segment := .DS,
      jumpType := .RM_REG_MEM, next := 0x1f0 },
    { width := .W8, raModrmRmReg := true, segment := .DS,
      jumpType := .RM_REG_MEM, next := 0x1f3 },
    { nextInstruction := true, next := 0x1eb },
    { nextInstruction := true, next := 0x1ec },
    { nextInstruction := true, next := 0x1ed },
    { nextInstruction := true, next := 0x1ee },
    { nextInstruction := true, next := 0x1ef },
    { next := 0x43a },
    { bSel := .IMMEDIATE, immediate := some 0x1#16, aluOp := .ADD,
      rdSelSource := .MODRM_RM_REG, updateFlags := [.OF, .SF, .ZF, .AF, .PF],
      width := .WAUTO, nextInstruction := true, next := 0x1f1 },
    { width := .WAUTO, segment := .DS, memRead := true, next := 0x1f2 },
    { aSel := .MDR, bSel := .IMMEDIATE, immediate := some 0x1#16,
      aluOp := .ADD, mdrWrite := true,
      updateFlags := [.OF, .SF, .ZF, .AF, .PF], width := .WAUTO,
      segment := .DS, next := 0x499 },
    { bSel := .IMMEDIATE, immediate := some 0x1#16, aluOp := .SUB,
      rdSelSource := .MODRM_RM_REG, updateFlags := [.OF, .SF, .ZF, .AF, .PF],
      width := .WAUTO, nextInstruction := true, next := 0x1f4 },
    { width := .WAUTO, segment := .DS, memRead := true, next := 0x1f5 },
    { aSel := .MDR, bSel := .IMMEDIATE, immediate := some 0x1#16,
      aluOp := .SUB, mdrWrite := true,
      updateFlags := [.OF, .SF, .ZF, .AF, .PF], width := .WAUTO,
      segment := .DS, next := 0x499 },
    { bSel := .IMMEDIATE, immediate := some 0x1#16, aluOp := .ADD,
      rdSelSource := .MICROCODE_RD_SEL, rdSel := AX,
      updateFlags := [.OF, .SF, .ZF, .AF, .PF], nextInstruction := true,
      next := 0x1f7 },
    { bSel := .IMMEDIATE, immediate := some 0x1#16, aluOp := .ADD,
      rdSelSource := .MICROCODE_RD_SEL, rdSel := CX,
      updateFlags := [.OF, .SF, .ZF, .AF, .PF], nextInstruction := true,
      next := 0x1f8 },
    { bSel := .IMMEDIATE, immediate := some 0x1#16, aluOp := .ADD,
      rdSelSource := .MICROCODE_RD_SEL, rdSel := DX,
      updateFlags := [.OF, .SF, .ZF, .AF, .PF], nextInstruction := true,
      next := 0x1f9 },
    { bSel := .IMMEDIATE, immediate := some 0x1#16, aluOp := .ADD,
      rdSelSource := .MICROCODE_RD_SEL, rdSel := BX,
      updateFlags := [.OF, .SF, .ZF, .AF, .PF], nextInstruction := true,
      next := 0x1fa },
    { bSel := .IMMEDIATE, immediate := some 0x1#16, aluOp := .ADD,
      rdSelSource := .MICROCODE_RD_SEL, rdSel := SP,
      updateFlags := [.OF, .SF, .ZF, .AF, .PF], nextInstruction := true,
      next := 0x1fb },
    { bSel := .IMMEDIATE, immediate := some 0x1#16, aluOp := .ADD,
      rdSelSource := .MICROCODE_RD_SEL, rdSel := BP,
      updateFlags := [.OF, .SF, .ZF, .AF, .PF], nextInstruction := true,
      next := 0x1fc },
    { bSel := .IMMEDIATE, immediate := some 0x1#16, aluOp := .ADD,
      rdSelSource := .MICROCODE_RD_SEL, rdSel := SI,
      updateFlags := [.OF, .SF, .ZF, .AF, .PF], nextInstruction := true,
      next := 0x1fd },
    { bSel := .IMMEDIATE, immediate := some 0x1#16, aluOp := .ADD,
      rdSelSource := .MICROCODE_RD_SEL, rdSel := DI,
      updateFlags := [.OF, .SF, .ZF, .AF, .PF], nextInstruction := true,
      next := 0x1fe },
    { bSel := .IMMEDIATE, immediate := some 0x1#16, aluOp := .SUB,
      rdSelSource := .MICROCODE_RD_SEL, rdSel := AX,
      updateFlags := [.OF, .SF, .ZF, .AF, .PF], nextInstruction := true,
      next := 0x1ff },
    { bSel := .IMMEDIATE, immediate := some 0x1#16, aluOp := .SUB,
      rdSelSource := .MICROCODE_RD_SEL, rdSel := CX,
      updateFlags := [.OF, .SF, .ZF, .AF, .PF], nextInstruction := true,
      next := 0x200 },
    { bSel := .IMMEDIATE, immediate := some 0x1#16, aluOp := .SUB,
      rdSelSource := .MICROCODE_RD_SEL, rdSel := DX,
      updateFlags := [.OF, .SF, .ZF, .AF, .PF], nextInstruction := true,
      next := 0x201 },
    { bSel := .IMMEDIATE, immediate := some 0x1#16, aluOp := .SUB,
      rdSelSource := .MICROCODE_RD_SEL, rdSel := BX,
      updateFlags := [.OF, .SF, .ZF, .AF, .PF], nextInstruction := true,
      next := 0x202 },
    { bSel := .IMMEDIATE, immediate := some 0x1#16, aluOp := .SUB,
      rdSelSource := .MICROCODE_RD_SEL, rdSel := SP,
      updateFlags := [.OF, .SF, .ZF, .AF, .PF], nextInstruction := true,
      next := 0x203 },
    { bSel := .IMMEDIATE, immediate := some 0x1#16, aluOp := .SUB,
      rdSelSource := .MICROCODE_RD_SEL, rdSel := BP,
      updateFlags := [.OF, .SF, .ZF, .AF, .PF], nextInstruction := true,
      next := 0x204 },
    { bSel := .IMMEDIATE, immediate := some 0x1#16, aluOp := .SUB,
      rdSelSource := .MICROCODE_RD_SEL, rdSel := SI,
      updateFlags := [.OF, .SF, .ZF, .AF, .PF], nextInstruction := true,
      next := 0x205 },
    { bSel := .IMMEDIATE, immediate := some 0x1#16, aluOp := .SUB,
      rdSelSource := .MICROCODE_RD_SEL, rdSel := DI,
      updateFlags := [.OF, .SF, .ZF, .AF, .PF], nextInstruction := true,
      next := 0x206 }
  ]

def intWords : List Microinstruction :=
  [
    { aSel := .MAR, bSel := .IMMEDIATE, immediate := some 0xff#16,
      aluOp := .AND, marWrite := true, marWrSel := .Q, next := 0x207 },
    { aSel := .MAR, bSel := .IMMEDIATE, immediate := some 0x4#16,
      aluOp := .MUL, tmpWrEn := true, next := 0x12d },
    { bSel := .IMMEDIATE, immediate := some 0x10#16, aluOp := .SELB,
      tmpWrEn := true, raSel := SP, jumpType := .JUMP_TAKEN, next := 0x20a },
    { nextInstruction := true, next := 0x20a },
    { next := 0x12d },
    { bSel := .IMMEDIATE, immediate := some 0x2#16, aluOp := .SUB,
      marWrite := true, marWrSel := .Q, segment := .SS, segmentForce := true,
      next := 0x20c },
    { segment := .SS, segmentForce := true, memWrite := true, next := 0x20d },
    { aSel := .MAR, bSel := .IMMEDIATE, immediate := some 0x2#16,
      aluOp := .SUB, marWrite := true, marWrSel := .Q, segmentForce := true,
      segment := .CS, next := 0x20e },
    { bSel := .SR, aluOp := .SELB, mdrWrite := true, segment := .SS,
      segmentForce := true, next := 0x20f },
    { segment := .SS, segmentForce := true, memWrite := true, next := 0x210 },
    { aSel := .MAR, bSel := .IMMEDIATE, immediate := some 0x2#16,
      aluOp := .SUB, marWrite := true, marWrSel := .Q, next := 0x211 },
    { aSel := .IP, mdrWrite := true, segment := .SS, segmentForce := true,
      next := 0x212 },
    { segment := .SS, segmentForce := true, memWrite := true, next := 0x213 },
    { aSel := .MAR, rdSelSource := .MICROCODE_RD_SEL, rdSel := SP,
      next := 0x214 },
    { bSel := .IMMEDIATE, immediate := some 0x0#16, aluOp := .SETFLAGSB,
      updateFlags := [.IF, .TF], next := 0x215 },
    { bSel := .IMMEDIATE, immediate := some 0x0#16, aluOp := .SELB,
      segmentForce := true, segment := .CS, segmentWrEn := true,
      next := 0x216 },
    { bSel := .TEMP, aluOp := .SELB, marWrSel := .Q, marWrite := true,
      segment := .CS, segmentForce := true, next := 0x217 },
    { segmentForce := true, segment := .CS, memRead := true, next := 0x218 },
    { aSel := .MDR, loadIp := true, next := 0x219 },
    { aSel := .MAR, bSel := .IMMEDIATE, immediate := some 0x2#16,
      aluOp := .ADD, marWrite := true, marWrSel := .Q, segment := .CS,
      segmentForce := true, next := 0x21a },
    { segmentForce := true, segment := .CS, memRead := true, next := 0x21b },
    { aSel := .MDR, segmentForce := true, segment := .CS, segmentWrEn := true,
      nextInstruction := true, next := 0x21c }
  ]

def ioWords : List Microinstruction :=
  [
    { aSel := .MAR, bSel := .IMMEDIATE, immediate := some 0xff#16,
      aluOp := .AND, marWrite := true, marWrSel := .Q, next := 0x21d },
    { mdrWrite := true, next := 0x21e },
    { width := .WAUTO, io := true, memWrite := true, nextInstruction := true,
      next := 0x21f },
    { mdrWrite := true, raSel := DX, next := 0x220 },
    { marWrite := true, marWrSel := .Q, next := 0x221 },
    { width := .WAUTO, io := true, memWrite := true, nextInstruction := true,
      next := 0x222 },
    { aSel := .MAR, bSel := .IMMEDIATE, immediate := some 0xff#16,
      aluOp := .AND, marWrite := true, marWrSel := .Q, next := 0x223 },
    { width := .WAUTO, io := true, memRead := true, next := 0x224 },
    { aSel := .MDR, rdSelSource := .MICROCODE_RD_SEL, rdSel := AL,
      width := .WAUTO, nextInstruction := true, next := 0x225 },
    { marWrite := true, marWrSel := .Q, next := 0x226 },
    { width := .WAUTO, io := true, memRead := true, next := 0x227 },
    { aSel := .MDR, rdSelSource := .MICROCODE_RD_SEL, rdSel := AL,
      width := .WAUTO, nextInstruction := true, next := 0x228 },
    { raSel := SI, jumpType := .HAS_NO_REP_PREFIX, next := 0x22c },
    { rbCl := true, next := 0x22a },
    { raSel := CX, bSel := .IMMEDIATE, immediate := some 0x0#16,
      aluOp := .SUB, jumpType := .RB_ZERO, next := 0x233 },
    { raSel := SI, bSel := .IMMEDIATE, immediate := some 0x1#16,
      aluOp := .SUB, rdSelSource := .MICROCODE_RD_SEL, rdSel := CX,
      next := 0x22c },
    { raSel := SI, marWrSel := .Q, marWrite := true, segment := .DS,
      next := 0x22d },
    { bSel := .IMMEDIATE, immediate := some 0x1#16, aluOp := .NEXT,
      rdSelSource := .MICROCODE_RD_SEL, rdSel := SI, segment := .DS,
      next := 0x22e },
    { width := .W8, segment := .DS, memRead := true, next := 0x22f },
    { raSel := DX, next := 0x230 },
    { marWrite := true, marWrSel := .Q, next := 0x231 },
    { width := .W8, io := true, memWrite := true,
      jumpType := .HAS_NO_REP_PREFIX, next := 0x233 },
    { rbCl := true, extIntYield := true, next := 0x22a },
    { nextInstruction := true, next := 0x234 },
    { raSel := SI, jumpType := .HAS_NO_REP_PREFIX, next := 0x238 },
    { rbCl := true, next := 0x236 },
    { raSel := CX, bSel := .IMMEDIATE, immediate := some 0x0#16,
      aluOp := .SUB, jumpType := .RB_ZERO, next := 0x23f },
    { raSel := SI, bSel := .IMMEDIATE, immediate := some 0x1#16,
      aluOp := .SUB, rdSelSource := .MICROCODE_RD_SEL, rdSel := CX,
      next := 0x238 },
    { raSel := SI, marWrSel := .Q, marWrite := true, segment := .DS,
      next := 0x239 },
    { bSel := .IMMEDIATE, immediate := some 0x2#16, aluOp := .NEXT,
      rdSelSource := .MICROCODE_RD_SEL, rdSel := SI, segment := .DS,
      next := 0x23a },
    { segment := .DS, memRead := true, next := 0x23b },
    { raSel := DX, next := 0x23c },
    { marWrite := true, marWrSel := .Q, next := 0x23d },
    { io := true, memWrite := true, jumpType := .HAS_NO_REP_PREFIX,
      next := 0x23f },
    { rbCl := true, extIntYield := true, next := 0x236 },
    { nextInstruction := true, next := 0x240 },
    { raSel := DX, jumpType := .HAS_NO_REP_PREFIX, next := 0x244 },
    { rbCl := true, next := 0x242 },
    { raSel := CX, bSel := .IMMEDIATE, immediate := some 0x0#16,
      aluOp := .SUB, jumpType := .RB_ZERO, next := 0x24c },
    { raSel := DX, bSel := .IMMEDIATE, immediate := some 0x1#16,
      aluOp := .SUB, rdSelSource := .MICROCODE_RD_SEL, rdSel := CX,
      next := 0x244 },
    { marWrSel := .Q, marWrite := true, next := 0x245 },
    { width := .W8, io := true, memRead := true, next := 0x246 },
    { raSel := DI, next := 0x247 },
    { marWrite := true, marWrSel := .Q, segment := .ES, segmentForce := true,
      next := 0x248 },
    { segment := .ES, segmentForce := true, width := .W8, memWrite := true,
      next := 0x249 },
    { raSel := DI, next := 0x24a },
    { bSel := .IMMEDIATE, immediate := some 0x1#16, aluOp := .NEXT,
      rdSelSource := .MICROCODE_RD_SEL, rdSel := DI,
      jumpType := .HAS_NO_REP_PREFIX, next := 0x24c },
    { rbCl := true, extIntYield := true, next := 0x242 },
    { nextInstruction := true, next := 0x24d },
    { raSel := DX, jumpType := .HAS_NO_REP_PREFIX, next := 0x251 },
    { rbCl := true, next := 0x24f },
    { raSel := CX, bSel := .IMMEDIATE, immediate := some 0x0#16,
      aluOp := .SUB, jumpType := .RB_ZERO, next := 0x259 },
    { raSel := DX, bSel := .IMMEDIATE, immediate := some 0x1#16,
      aluOp := .SUB, rdSelSource := .MICROCODE_RD_SEL, rdSel := CX,
      next := 0x251 },
    { marWrSel := .Q, marWrite := true, next := 0x252 },
    { io := true, memRead := true, next := 0x253 },
    { raSel := DI, next := 0x254 },
    { marWrite := true, marWrSel := .Q, segment := .ES, segmentForce := true,
      next := 0x255 },
    { segment := .ES, segmentForce := true, memWrite := true, next := 0x256 },
    { raSel := DI, next := 0x257 },
    { bSel := .IMMEDIATE, immediate := some 0x2#16, aluOp := .NEXT,
      rdSelSource := .MICROCODE_RD_SEL, rdSel := DI,
      jumpType := .HAS_NO_REP_PREFIX, next := 0x259 },
    { rbCl := true, extIntYield := true, next := 0x24f },
    { nextInstruction := true, next := 0x25a }
  ]

def jmpWords : List Microinstruction :=
  [
    { bSel := .IMMEDIATE2, aluOp := .SELB, segmentWrEn := true,
      segmentForce := true, segment := .CS, nextInstruction := true,
      next := 0x25b },
    { loadIp := true, nextInstruction := true, next := 0x25c },
    { segment := .DS, memRead := true, next := 0x25d },
    { aSel := .MDR, loadIp := true, nextInstruction := true, next := 0x25e },
    { nextInstruction := true, next := 0x25f },
    { segment := .DS, memRead := true, next := 0x260 },
    { aSel := .MDR, loadIp := true, next := 0x261 },
    { immediate := some 0x2#16, aSel := .MAR, bSel := .IMMEDIATE,
      aluOp := .ADD, marWrSel := .Q, marWrite := true, segment := .DS,
      next := 0x262 },
    { segment := .DS, memRead := true, next := 0x263 },
    { aSel := .MDR, segmentWrEn := true, segmentForce := true, segment := .CS,
      nextInstruction := true, next := 0x264 },
    { jumpType := .RB_ZERO, next := 0x266 },
    { nextInstruction := true, next := 0x266 },
    { aSel := .IP, bSel := .IMMEDIATE, aluOp := .ADD, loadIp := true,
      nextInstruction := true, next := 0x267 },
    { jumpType := .JUMP_TAKEN, next := 0x269 },
    { nextInstruction := true, next := 0x269 },
    { aSel := .IP, bSel := .IMMEDIATE, aluOp := .ADD, loadIp := true,
      nextInstruction := true, next := 0x26a }
  ]

def ldsWords : List Microinstruction :=
  [
    { nextInstruction := true, next := 0x26b },
    { segment := .DS, memRead := true, next := 0x26c },
    { rdSelSource := .MODRM_REG, aSel := .MDR, segment := .DS, next := 0x26d },
    { aSel := .MAR, aluOp := .ADD, bSel := .IMMEDIATE,
      immediate := some 0x2#16, marWrite := true, marWrSel := .Q,
      segment := .DS, next := 0x26e },
    { segment := .DS, memRead := true, next := 0x26f },
    { segmentForce := true, segment := .DS, segmentWrEn := true, aSel := .MDR,
      nextInstruction := true, next := 0x270 }
  ]

def leaWords : List Microinstruction :=
  [
    { nextInstruction := true, next := 0x271 },
    { rdSel := AX, rdSelSource := .MODRM_REG, aSel := .MAR,
      nextInstruction := true, next := 0x272 }
  ]

def leaveWords : List Microinstruction :=
  [
    { rdSel := SP, rdSelSource := .MICROCODE_RD_SEL, marWrite := true,
      marWrSel := .Q, segment := .SS, segmentForce := true, next := 0x273 },
    { segment := .SS, segmentForce := true, memRead := true, next := 0x274 },
    { aSel := .MDR, rdSel := BP, rdSelSource := .MICROCODE_RD_SEL,
      next := 0x275 },
    { aSel := .MAR, bSel := .IMMEDIATE, immediate := some 0x2#16,
      aluOp := .ADD, rdSelSource := .MICROCODE_RD_SEL, rdSel := SP,
      nextInstruction := true, next := 0x276 }
  ]

def lesWords : List Microinstruction :=
  [
    { nextInstruction := true, next := 0x277 },
    { segment := .DS, memRead := true, next := 0x278 },
    { rdSelSource := .MODRM_REG, aSel := .MDR, segment := .DS, next := 0x279 },
    { aSel := .MAR, aluOp := .ADD, bSel := .IMMEDIATE,
      immediate := some 0x2#16, marWrite := true, marWrSel := .Q,
      segment := .DS, next := 0x27a },
    { segment := .DS, memRead := true, next := 0x27b },
    { segmentForce := true, segment := .ES, segmentWrEn := true, aSel := .MDR,
      nextInstruction := true, next := 0x27c }
  ]

def lodsWords : List Microinstruction :=
  [
    { raSel := SI, rbCl := true, jumpType := .HAS_NO_REP_PREFIX,
      next := 0x27f },
    { raSel := CX, jumpType := .RB_ZERO, next := 0x283 },
    { raSel := SI, bSel := .IMMEDIATE, immediate := some 0x1#16,
      aluOp := .SUB, rdSelSource := .MICROCODE_RD_SEL, rdSel := CX,
      next := 0x27f },
    { raSel := SI, marWrSel := .Q, marWrite := true, segment := .DS,
      next := 0x280 },
    { bSel := .IMMEDIATE, immediate := some 0x1#16, aluOp := .NEXT,
      rdSelSource := .MICROCODE_RD_SEL, rdSel := SI, segment := .DS,
      next := 0x281 },
    { width := .W8, segment := .DS, memRead := true, aSel := .MDR,
      rdSelSource := .MICROCODE_RD_SEL, rdSel := AL,
      jumpType := .HAS_NO_REP_PREFIX, next := 0x283 },
    { rbCl := true, extIntYield := true, next := 0x27d },
    { nextInstruction := true, next := 0x284 },
    { raSel := SI, rbCl := true, jumpType := .HAS_NO_REP_PREFIX,
      next := 0x287 },
    { raSel := CX, jumpType := .RB_ZERO, next := 0x28b },
    { raSel := SI, bSel := .IMMEDIATE, immediate := some 0x1#16,
      aluOp := .SUB, rdSelSource := .MICROCODE_RD_SEL, rdSel := CX,
      next := 0x287 },
    { raSel := SI, marWrSel := .Q, marWrite := true, segment := .DS,
      next := 0x288 },
    { bSel := .IMMEDIATE, immediate := some 0x2#16, aluOp := .NEXT,
      rdSelSource := .MICROCODE_RD_SEL, rdSel := SI, segment := .DS,
      next := 0x289 },
    { segment := .DS, memRead := true, aSel := .MDR,
      rdSelSource := .MICROCODE_RD_SEL, rdSel := AX,
      jumpType := .HAS_NO_REP_PREFIX, next := 0x28b },
    { rbCl := true, extIntYield := true, next := 0x285 },
    { nextInstruction := true, next := 0x28c }
  ]

def loopWords : List Microinstruction :=
  [
    { bSel := .IMMEDIATE, immediate := some 0x1#16, aluOp := .SUB,
      rdSelSource := .MICROCODE_RD_SEL, rdSel := CX, rbCl := true,
      next := 0x28d },
    { jumpType := .RB_ZERO, next := 0x28f },
    { aSel := .IP, bSel := .IMMEDIATE, aluOp := .ADD, loadIp := true,
      nextInstruction := true, next := 0x28f },
    { nextInstruction := true, next := 0x290 },
    { bSel := .IMMEDIATE, immediate := some 0x1#16, aluOp := .SUB,
      rdSelSource := .MICROCODE_RD_SEL, rdSel := CX, rbCl := true,
      jumpType := .ZERO, next := 0x292 },
    { next := 0x28f },
    { jumpType := .RB_ZERO, next := 0x28f },
    { aSel := .IP, bSel := .IMMEDIATE, aluOp := .ADD, loadIp := true,
      nextInstruction := true, next := 0x294 },
    { bSel := .IMMEDIATE, immediate := some 0x1#16, aluOp := .SUB,
      rdSelSource := .MICROCODE_RD_SEL, rdSel := CX, rbCl := true,
      jumpType := .ZERO, next := 0x28f },
    { jumpType := .RB_ZERO, next := 0x28f },
    { aSel := .IP, bSel := .IMMEDIATE, aluOp := .ADD, loadIp := true,
      nextInstruction := true, next := 0x297 }
  ]

def movWords : List Microinstruction :=
  [
    { aluOp := .SELB, rdSelSource := .MODRM_RM_REG, width := .WAUTO,
      nextInstruction := true, next := 0x298 },
    { aluOp := .SELB, mdrWrite := true, segment := .DS, next := 0x499 },
    { raModrmRmReg := true, rdSelSource := .MODRM_REG, width := .WAUTO,
      nextInstruction := true, next := 0x29a },
    { memRead := true, width := .WAUTO, segment := .DS, next := 0x29b },
    { rdSelSource := .MODRM_REG, aSel := .MDR, width := .WAUTO,
      nextInstruction := true, next := 0x29c },
    { jumpType := .RM_REG_MEM, next := 0x2a4 },
    { nextInstruction := true, next := 0x29e },
    { nextInstruction := true, next := 0x29f },
    { nextInstruction := true, next := 0x2a0 },
    { nextInstruction := true, next := 0x2a1 },
    { nextInstruction := true, next := 0x2a2 },
    { nextInstruction := true, next := 0x2a3 },
    { nextInstruction := true, next := 0x2a4 },
    { bSel := .IMMEDIATE, aluOp := .SELB, rdSelSource := .MODRM_RM_REG,
      width := .WAUTO, nextInstruction := true, next := 0x2a5 },
    { bSel := .IMMEDIATE, aluOp := .SELB, mdrWrite := true, segment := .DS,
      next := 0x499 },
    { segment := .DS, width := .WAUTO, memRead := true, next := 0x2a7 },
    { rdSelSource := .MICROCODE_RD_SEL, rdSel := AL, width := .WAUTO,
      aSel := .MDR, nextInstruction := true, next := 0x2a8 },
    { mdrWrite := true, segment := .DS, next := 0x499 },
    { segmentWrEn := true, rdSelSource := .MODRM_REG, extIntInhibit := true,
      nextInstruction := true, next := 0x2aa },
    { segment := .DS, memRead := true, next := 0x2ab },
    { rdSelSource := .MODRM_REG, segmentWrEn := true, aSel := .MDR,
      extIntInhibit := true, nextInstruction := true, next := 0x2ac },
    { segmentForce := true, segment := .ES, jumpType := .RM_REG_MEM,
      next := 0x2b4 },
    { segmentForce := true, segment := .CS, jumpType := .RM_REG_MEM,
      next := 0x2b4 },
    { segmentForce := true, segment := .SS, jumpType := .RM_REG_MEM,
      next := 0x2b4 },
    { segmentForce := true, segment := .DS, jumpType := .RM_REG_MEM,
      next := 0x2b4 },
    { segmentForce := true, segment := .ES, jumpType := .RM_REG_MEM,
      next := 0x2b4 },
    { segmentForce := true, segment := .CS, jumpType := .RM_REG_MEM,
      next := 0x2b4 },
    { segmentForce := true, segment := .SS, jumpType := .RM_REG_MEM,
      next := 0x2b4 },
    { segmentForce := true, segment := .DS, jumpType := .RM_REG_MEM,
      next := 0x2b4 },
    { rdSelSource := .MODRM_RM_REG, bSel := .SR, aluOp := .SELB,
      nextInstruction := true, next := 0x2b5 },
    { bSel := .SR, aluOp := .SELB, mdrWrite := true, segment := .DS,
      next := 0x498 }
  ]

def movsWords : List Microinstruction :=
  [
    { raSel := SI, rbCl := true, jumpType := .HAS_NO_REP_PREFIX,
      next := 0x2b9 },
    { raSel := CX, jumpType := .RB_ZERO, next := 0x2bf },
    { raSel := SI, bSel := .IMMEDIATE, immediate := some 0x1#16,
      aluOp := .SUB, rdSelSource := .MICROCODE_RD_SEL, rdSel := CX,
      next := 0x2b9 },
    { marWrSel := .Q, marWrite := true, raSel := SI, segment := .DS,
      next := 0x2ba },
    { width := .W8, segment := .DS, memRead := true, next := 0x2bb },
    { raSel := DI, aSel := .MAR, bSel := .IMMEDIATE, immediate := some 0x1#16,
      aluOp := .NEXT, rdSelSource := .MICROCODE_RD_SEL, rdSel := SI,
      next := 0x2bc },
    { raSel := DI, marWrSel := .Q, marWrite := true, segment := .ES,
      segmentForce := true, next := 0x2bd },
    { width := .W8, segment := .ES, segmentForce := true, memWrite := true,
      jumpType := .HAS_NO_REP_PREFIX, next := 0x2c0 },
    { aSel := .MAR, bSel := .IMMEDIATE, immediate := some 0x1#16,
      aluOp := .NEXT, rdSelSource := .MICROCODE_RD_SEL, rdSel := DI,
      rbCl := true, extIntYield := true, next := 0x2b7 },
    { nextInstruction := true, next := 0x2c0 },
    { aSel := .MAR, bSel := .IMMEDIATE, immediate := some 0x1#16,
      aluOp := .NEXT, rdSelSource := .MICROCODE_RD_SEL, rdSel := DI,
      nextInstruction := true, next := 0x2c1 },
    { raSel := SI, rbCl := true, jumpType := .HAS_NO_REP_PREFIX,
      next := 0x2c4 },
    { raSel := CX, jumpType := .RB_ZERO, next := 0x2ca },
    { raSel := SI, bSel := .IMMEDIATE, immediate := some 0x1#16,
      aluOp := .SUB, rdSelSource := .MICROCODE_RD_SEL, rdSel := CX,
      next := 0x2c4 },
    { marWrSel := .Q, marWrite := true, raSel := SI, next := 0x2c5 },
    { bSel := .IMMEDIATE, immediate := some 0x2#16, aluOp := .NEXT,
      rdSelSource := .MICROCODE_RD_SEL, rdSel := SI, segment := .DS,
      next := 0x2c6 },
    { segment := .DS, memRead := true, raSel := DI, marWrSel := .Q,
      marWrite := true, next := 0x2c7 },
    { bSel := .IMMEDIATE, immediate := some 0x2#16, aluOp := .NEXT,
      rdSelSource := .MICROCODE_RD_SEL, rdSel := DI, segment := .ES,
      segmentForce := true, next := 0x2c8 },
    { segment := .ES, segmentForce := true, memWrite := true,
      jumpType := .HAS_NO_REP_PREFIX, next := 0x2ca },
    { rbCl := true, extIntYield := true, next := 0x2c2 },
    { nextInstruction := true, next := 0x2cb }
  ]

def mulWords : List Microinstruction :=
  [
    { width := .W8, mdrWrite := true, raSel := AL, next := 0x2cd },
    { width := .W8, segment := .DS, memRead := true, raSel := AL,
      next := 0x2cd },
    { width := .W8, tmpWrEn := true, next := 0x2ce },
    { width := .W8, aSel := .MDR, bSel := .TEMP, aluOp := .MUL,
      updateFlags := [.ZF, .OF, .CF], tmpWrEn := true, next := 0x2cf },
    { bSel := .TEMP, aluOp := .SELB, rdSelSource := .MICROCODE_RD_SEL,
      rdSel := AX, nextInstruction := true, next := 0x2d0 },
    { mdrWrite := true, raSel := AX, next := 0x2d2 },
    { segment := .DS, memRead := true, raSel := AX, next := 0x2d2 },
    { tmpWrEn := true, next := 0x2d3 },
    { aSel := .MDR, bSel := .TEMP, aluOp := .MUL,
      updateFlags := [.ZF, .OF, .CF], tmpWrSel := .Q_HIGH, tmpWrEn := true,
      rdSelSource := .MICROCODE_RD_SEL, rdSel := AX, next := 0x2d4 },
    { bSel := .TEMP, aluOp := .SELB, rdSelSource := .MICROCODE_RD_SEL,
      rdSel := DX, nextInstruction := true, next := 0x2d5 },
    { width := .W8, mdrWrite := true, raSel := AL, next := 0x2d7 },
    { width := .W8, segment := .DS, memRead := true, raSel := AL,
      next := 0x2d7 },
    { width := .W8, tmpWrEn := true, next := 0x2d8 },
    { width := .W8, aSel := .MDR, bSel := .TEMP, aluOp := .IMUL,
      updateFlags := [.ZF, .OF, .CF], tmpWrEn := true, next := 0x2d9 },
    { bSel := .TEMP, aluOp := .SELB, rdSelSource := .MICROCODE_RD_SEL,
      rdSel := AX, nextInstruction := true, next := 0x2da },
    { mdrWrite := true, raSel := AX, next := 0x2dc },
    { segment := .DS, memRead := true, raSel := AX, next := 0x2dc },
    { tmpWrEn := true, next := 0x2dd },
    { aSel := .MDR, bSel := .TEMP, aluOp := .IMUL,
      updateFlags := [.ZF, .OF, .CF], tmpWrSel := .Q_HIGH, tmpWrEn := true,
      rdSelSource := .MICROCODE_RD_SEL, rdSel := AX, next := 0x2de },
    { bSel := .TEMP, aluOp := .SELB, rdSelSource := .MICROCODE_RD_SEL,
      rdSel := DX, nextInstruction := true, next := 0x2df },
    { bSel := .IMMEDIATE, aluOp := .IMUL, updateFlags := [.ZF, .OF, .CF],
      rdSelSource := .MODRM_REG, nextInstruction := true, next := 0x2e0 },
    { segment := .DS, memRead := true, next := 0x2e1 },
    { aSel := .MDR, bSel := .IMMEDIATE, aluOp := .IMUL,
      updateFlags := [.ZF, .OF, .CF], rdSelSource := .MODRM_REG,
      nextInstruction := true, next := 0x2e2 }
  ]

def negWords : List Microinstruction :=
  [
    { bSel := .IMMEDIATE, immediate := some 0x0#16, aluOp := .SUBREV,
      rdSelSource := .MODRM_RM_REG,
      updateFlags := [.OF, .SF, .ZF, .CF, .PF, .AF], width := .WAUTO,
      nextInstruction := true, next := 0x2e3 },
    { width := .WAUTO, segment := .DS, memRead := true, raModrmRmReg := true,
      next := 0x2e4 },
    { aSel := .MDR, bSel := .IMMEDIATE, immediate := some 0x0#16,
      aluOp := .SUBREV, mdrWrite := true,
      updateFlags := [.OF, .SF, .ZF, .CF, .PF, .AF], width := .WAUTO,
      segment := .DS, next := 0x499 }
  ]

def notWords : List Microinstruction :=
  [
    { bSel := .IMMEDIATE, immediate := some 0x0#16, aluOp := .NOT,
      rdSelSource := .MODRM_RM_REG,
      updateFlags := [.OF, .SF, .ZF, .CF, .PF, .AF], width := .WAUTO,
      nextInstruction := true, next := 0x2e6 },
    { width := .WAUTO, segment := .DS, memRead := true, raModrmRmReg := true,
      next := 0x2e7 },
    { aSel := .MDR, bSel := .IMMEDIATE, immediate := some 0x0#16,
      aluOp := .NOT, mdrWrite := true,
      updateFlags := [.OF, .SF, .ZF, .CF, .PF, .AF], width := .WAUTO,
      segment := .DS, next := 0x499 }
  ]

def orWords : List Microinstruction :=
  arithmetic 0x2e8 .OR .OR [.OF, .SF, .ZF, .CF, .PF]

def popWords : List Microinstruction :=
  [
    { marWrSel := .Q, marWrite := true, segmentForce := true, segment := .SS,
      next := 0x2f9 },
    { marWrSel := .Q, marWrite := true, segmentForce := true, segment := .SS,
      next := 0x2fc },
    { segmentForce := true, segment := .SS, memRead := true, raSel := SP,
      next := 0x2fa },
    { bSel := .IMMEDIATE, immediate := some 0x2#16, aluOp := .ADD,
      rdSel := SP, rdSelSource := .MICROCODE_RD_SEL, next := 0x2fb },
    { aSel := .MDR, rdSelSource := .MODRM_RM_REG, nextInstruction := true,
      next := 0x2fc },
    { segmentForce := true, segment := .SS, memRead := true, raSel := SP,
      next := 0x2fd },
    { bSel := .IMMEDIATE, immediate := some 0x2#16, aluOp := .ADD,
      rdSel := SP, rdSelSource := .MICROCODE_RD_SEL, next := 0x2fe },
    { marWrite := true, segment := .DS, next := 0x498 },
    { marWrSel := .Q, marWrite := true, segmentForce := true, segment := .SS,
      next := 0x300 },
    { segmentForce := true, segment := .SS, memRead := true, aSel := .MAR,
      bSel := .IMMEDIATE, immediate := some 0x2#16, aluOp := .ADD,
      rdSel := SP, rdSelSource := .MICROCODE_RD_SEL, next := 0x301 },
    { aSel := .MDR, segmentForce := true, segment := .ES, segmentWrEn := true,
      extIntInhibit := true, nextInstruction := true, next := 0x302 },
    { marWrSel := .Q, marWrite := true, segmentForce := true, segment := .SS,
      next := 0x303 },
    { segmentForce := true, segment := .SS, memRead := true, aSel := .MAR,
      bSel := .IMMEDIATE, immediate := some 0x2#16, aluOp := .ADD,
      rdSel := SP, rdSelSource := .MICROCODE_RD_SEL, next := 0x304 },
    { aSel := .MDR, segmentForce := true, segment := .SS, segmentWrEn := true,
      extIntInhibit := true, nextInstruction := true, next := 0x305 },
    { marWrSel := .Q, marWrite := true, segmentForce := true, segment := .SS,
      next := 0x306 },
    { segmentForce := true, segment := .SS, memRead := true, aSel := .MAR,
      bSel := .IMMEDIATE, immediate := some 0x2#16, aluOp := .ADD,
      rdSel := SP, rdSelSource := .MICROCODE_RD_SEL, next := 0x307 },
    { aSel := .MDR, segmentForce := true, segment := .DS, segmentWrEn := true,
      extIntInhibit := true, nextInstruction := true, next := 0x308 },
    { marWrSel := .Q, marWrite := true, segmentForce := true, segment := .SS,
      next := 0x309 },
    { segmentForce := true, segment := .SS, memRead := true, aSel := .MAR,
      bSel := .IMMEDIATE, immediate := some 0x2#16, aluOp := .ADD,
      rdSel := SP, rdSelSource := .MICROCODE_RD_SEL, next := 0x30a },
    { aSel := .MDR, rdSel := AX, rdSelSource := .MICROCODE_RD_SEL,
      nextInstruction := true, next := 0x30b },
    { marWrSel := .Q, marWrite := true, segmentForce := true, segment := .SS,
      next := 0x30c },
    { segmentForce := true, segment := .SS, memRead := true, aSel := .MAR,
      bSel := .IMMEDIATE, immediate := some 0x2#16, aluOp := .ADD,
      rdSel := SP, rdSelSource := .MICROCODE_RD_SEL, next := 0x30d },
    { aSel := .MDR, rdSel := CX, rdSelSource := .MICROCODE_RD_SEL,
      nextInstruction := true, next := 0x30e },
    { marWrSel := .Q, marWrite := true, segmentForce := true, segment := .SS,
      next := 0x30f },
    { segmentForce := true, segment := .SS, memRead := true, aSel := .MAR,
      bSel := .IMMEDIATE, immediate := some 0x2#16, aluOp := .ADD,
      rdSel := SP, rdSelSource := .MICROCODE_RD_SEL, next := 0x310 },
    { aSel := .MDR, rdSel := DX, rdSelSource := .MICROCODE_RD_SEL,
      nextInstruction := true, next := 0x311 },
    { marWrSel := .Q, marWrite := true, segmentForce := true, segment := .SS,
      next := 0x312 },
    { segmentForce := true, segment := .SS, memRead := true, aSel := .MAR,
      bSel := .IMMEDIATE, immediate := some 0x2#16, aluOp := .ADD,
      rdSel := SP, rdSelSource := .MICROCODE_RD_SEL, next := 0x313 },
    { aSel := .MDR, rdSel := BX, rdSelSource := .MICROCODE_RD_SEL,
      nextInstruction := true, next := 0x314 },
    { marWrSel := .Q, marWrite := true, segmentForce := true, segment := .SS,
      next := 0x315 },
    { segmentForce := true, segment := .SS, memRead := true, aSel := .MAR,
      bSel := .IMMEDIATE, immediate := some 0x2#16, aluOp := .ADD,
      rdSel := SP, rdSelSource := .MICROCODE_RD_SEL, next := 0x316 },
    { aSel := .MDR, rdSel := SP, rdSelSource := .MICROCODE_RD_SEL,
      nextInstruction := true, next := 0x317 },
    { marWrSel := .Q, marWrite := true, segmentForce := true, segment := .SS,
      next := 0x318 },
    { segmentForce := true, segment := .SS, memRead := true, aSel := .MAR,
      bSel := .IMMEDIATE, immediate := some 0x2#16, aluOp := .ADD,
      rdSel := SP, rdSelSource := .MICROCODE_RD_SEL, next := 0x319 },
    { aSel := .MDR, rdSel := BP, rdSelSource := .MICROCODE_RD_SEL,
      nextInstruction := true, next := 0x31a },
    { marWrSel := .Q, marWrite := true, segmentForce := true, segment := .SS,
      next := 0x31b },
    { segmentForce := true, segment := .SS, memRead := true, aSel := .MAR,
      bSel := .IMMEDIATE, immediate := some 0x2#16, aluOp := .ADD,
      rdSel := SP, rdSelSource := .MICROCODE_RD_SEL, next := 0x31c },
    { aSel := .MDR, rdSel := SI, rdSelSource := .MICROCODE_RD_SEL,
      nextInstruction := true, next := 0x31d },
    { marWrSel := .Q, marWrite := true, segmentForce := true, segment := .SS,
      next := 0x31e },
    { segmentForce := true, segment := .SS, memRead := true, aSel := .MAR,
      bSel := .IMMEDIATE, immediate := some 0x2#16, aluOp := .ADD,
      rdSel := SP, rdSelSource := .MICROCODE_RD_SEL, next := 0x31f },
    { aSel := .MDR, rdSel := DI, rdSelSource := .MICROCODE_RD_SEL,
      nextInstruction := true, next := 0x320 },
    { marWrSel := .Q, marWrite := true, segmentForce := true, segment := .SS,
      next := 0x321 },
    { segmentForce := true, segment := .SS, memRead := true, aSel := .MAR,
      bSel := .IMMEDIATE, immediate := some 0x2#16, aluOp := .ADD,
      rdSel := SP, rdSelSource := .MICROCODE_RD_SEL, next := 0x322 },
    { aSel := .MDR, aluOp := .SETFLAGSA,
      updateFlags := [.CF, .PF, .AF, .ZF, .SF, .TF, .IF, .DF, .OF],
      extIntInhibit := true, nextInstruction := true, next := 0x323 }
  ]

def pushWords : List Microinstruction :=
  [
    { bSel := .IMMEDIATE, immediate := some 0x2#16, aluOp := .SUB,
      rdSel := SP, rdSelSource := .MICROCODE_RD_SEL, marWrite := true,
      marWrSel := .Q, raModrmRmReg := true, segment := .DS, next := 0x325 },
    { segment := .DS, memRead := true, raSel := SP, next := 0x327 },
    { mdrWrite := true, segmentForce := true, segment := .SS, next := 0x326 },
    { segmentForce := true, segment := .SS, memWrite := true, aSel := .MAR,
      nextInstruction := true, next := 0x327 },
    { bSel := .IMMEDIATE, immediate := some 0x2#16, aluOp := .SUB,
      rdSel := SP, rdSelSource := .MICROCODE_RD_SEL, marWrite := true,
      marWrSel := .Q, segmentForce := true, segment := .SS, next := 0x328 },
    { segmentForce := true, segment := .SS, memWrite := true, aSel := .MAR,
      nextInstruction := true, next := 0x329 },
    { mdrWrite := true, raSel := SP, next := 0x32a },
    { bSel := .IMMEDIATE, immediate := some 0x2#16, aluOp := .SUB,
      rdSel := SP, marWrite := true, marWrSel := .Q, segmentForce := true,
      segment := .SS, next := 0x32b },
    { segmentForce := true, segment := .SS, memWrite := true, aSel := .MAR,
      rdSel := SP, rdSelSource := .MICROCODE_RD_SEL, nextInstruction := true,
      next := 0x32c },
    { bSel := .IMMEDIATE, immediate := some 0x2#16, aluOp := .SUB,
      rdSel := SP, marWrite := true, marWrSel := .Q, mdrWrite := true,
      segmentForce := true, segment := .SS, next := 0x32d },
    { segmentForce := true, segment := .SS, memWrite := true, aSel := .MAR,
      rdSel := SP, rdSelSource := .MICROCODE_RD_SEL, nextInstruction := true,
      next := 0x32e },
    { bSel := .SR, aluOp := .SELB, mdrWrite := true, raSel := SP,
      next := 0x32f },
    { bSel := .IMMEDIATE, immediate := some 0x2#16, aluOp := .SUB,
      rdSel := SP, marWrite := true, marWrSel := .Q, segmentForce := true,
      segment := .SS, next := 0x330 },
    { segmentForce := true, segment := .SS, memWrite := true, aSel := .MAR,
      rdSel := SP, rdSelSource := .MICROCODE_RD_SEL, nextInstruction := true,
      next := 0x331 },
    { bSel := .IMMEDIATE, immediate := some 0x2#16, aluOp := .SUB,
      marWrite := true, marWrSel := .Q, rdSel := SP,
      rdSelSource := .MICROCODE_RD_SEL, next := 0x332 },
    { bSel := .IMMEDIATE, aluOp := .SELB, mdrWrite := true,
      segmentForce := true, segment := .SS, next := 0x333 },
    { segmentForce := true, segment := .SS, memWrite := true,
      nextInstruction := true, next := 0x334 },
    { bSel := .IMMEDIATE, immediate := some 0x2#16, aluOp := .SUB,
      marWrite := true, marWrSel := .Q, rdSel := SP,
      rdSelSource := .MICROCODE_RD_SEL, next := 0x335 },
    { bSel := .IMMEDIATE, aluOp := .SELB, mdrWrite := true,
      segmentForce := true, segment := .SS, next := 0x336 },
    { segmentForce := true, segment := .SS, memWrite := true,
      nextInstruction := true, next := 0x337 },
    { bSel := .IMMEDIATE, immediate := some 0x2#16, aluOp := .SUB,
      marWrSel := .Q, marWrite := true, segmentForce := true, segment := .SS,
      rdSel := SP, rdSelSource := .MICROCODE_RD_SEL, next := 0x338 },
    { segmentForce := true, segment := .SS, memWrite := true,
      nextInstruction := true, next := 0x339 },
    { raSel := AX, bSel := .IMMEDIATE, immediate := some 0x2#16,
      aluOp := .SUB, marWrite := true, marWrSel := .Q, next := 0x33a },
    { mdrWrite := true, segmentForce := true, segment := .SS, next := 0x33b },
    { segmentForce := true, segment := .SS, memWrite := true, raSel := CX,
      aSel := .MAR, bSel := .IMMEDIATE, immediate := some 0x2#16,
      aluOp := .SUB, marWrSel := .Q, marWrite := true, next := 0x33c },
    { mdrWrite := true, segmentForce := true, segment := .SS, next := 0x33d },
    { segmentForce := true, segment := .SS, memWrite := true, raSel := DX,
      aSel := .MAR, bSel := .IMMEDIATE, immediate := some 0x2#16,
      aluOp := .SUB, marWrSel := .Q, marWrite := true, next := 0x33e },
    { mdrWrite := true, segmentForce := true, segment := .SS, next := 0x33f },
    { segmentForce := true, segment := .SS, memWrite := true, raSel := BX,
      aSel := .MAR, bSel := .IMMEDIATE, immediate := some 0x2#16,
      aluOp := .SUB, marWrSel := .Q, marWrite := true, next := 0x340 },
    { mdrWrite := true, segmentForce := true, segment := .SS, next := 0x341 },
    { segmentForce := true, segment := .SS, memWrite := true, raSel := SP,
      aSel := .MAR, bSel := .IMMEDIATE, immediate := some 0x2#16,
      aluOp := .SUB, marWrSel := .Q, marWrite := true, next := 0x342 },
    { mdrWrite := true, segmentForce := true, segment := .SS, next := 0x343 },
    { segmentForce := true, segment := .SS, memWrite := true, raSel := BP,
      aSel := .MAR, bSel := .IMMEDIATE, immediate := some 0x2#16,
      aluOp := .SUB, marWrSel := .Q, marWrite := true, next := 0x344 },
    { mdrWrite := true, segmentForce := true, segment := .SS, next := 0x345 },
    { segmentForce := true, segment := .SS, memWrite := true, raSel := SI,
      aSel := .MAR, bSel := .IMMEDIATE, immediate := some 0x2#16,
      aluOp := .SUB, marWrSel := .Q, marWrite := true, next := 0x346 },
    { mdrWrite := true, segmentForce := true, segment := .SS, next := 0x347 },
    { segmentForce := true, segment := .SS, memWrite := true, raSel := DI,
      aSel := .MAR, bSel := .IMMEDIATE, immediate := some 0x2#16,
      aluOp := .SUB, marWrSel := .Q, marWrite := true, next := 0x348 },
    { mdrWrite := true, segmentForce := true, segment := .SS, next := 0x349 },
    { segmentForce := true, segment := .SS, memWrite := true,
      rdSelSource := .MICROCODE_RD_SEL, rdSel := SP, aSel := .MAR,
      nextInstruction := true, next := 0x34a },
    { marWrSel := .Q, marWrite := true, segmentForce := true, segment := .SS,
      next := 0x34b },
    { segmentForce := true, segment := .SS, memRead := true,
      rdSelSource := .MICROCODE_RD_SEL, rdSel := DI, aSel := .MDR,
      next := 0x34c },
    { aSel := .MAR, bSel := .IMMEDIATE, immediate := some 0x2#16,
      aluOp := .ADD, marWrSel := .Q, marWrite := true, segmentForce := true,
      segment := .SS, next := 0x34d },
    { segmentForce := true, segment := .SS, memRead := true,
      rdSelSource := .MICROCODE_RD_SEL, rdSel := SI, aSel := .MDR,
      next := 0x34e },
    { aSel := .MAR, bSel := .IMMEDIATE, immediate := some 0x2#16,
      aluOp := .ADD, marWrSel := .Q, marWrite := true, segmentForce := true,
      segment := .SS, next := 0x34f },
    { segmentForce := true, segment := .SS, memRead := true,
      rdSelSource := .MICROCODE_RD_SEL, rdSel := BP, aSel := .MDR,
      next := 0x350 },
    { aSel := .MAR, bSel := .IMMEDIATE, immediate := some 0x4#16,
      aluOp := .ADD, marWrSel := .Q, marWrite := true, segmentForce := true,
      segment := .SS, next := 0x351 },
    { segmentForce := true, segment := .SS, memRead := true,
      rdSelSource := .MICROCODE_RD_SEL, rdSel := BX, aSel := .MDR,
      next := 0x352 },
    { aSel := .MAR, bSel := .IMMEDIATE, immediate := some 0x2#16,
      aluOp := .ADD, marWrSel := .Q, marWrite := true, segmentForce := true,
      segment := .SS, next := 0x353 },
    { segmentForce := true, segment := .SS, memRead := true,
      rdSelSource := .MICROCODE_RD_SEL, rdSel := DX, aSel := .MDR,
      next := 0x354 },
    { aSel := .MAR, bSel := .IMMEDIATE, immediate := some 0x2#16,
      aluOp := .ADD, marWrSel := .Q, marWrite := true, segmentForce := true,
      segment := .SS, next := 0x355 },
    { segmentForce := true, segment := .SS, memRead := true,
      rdSelSource := .MICROCODE_RD_SEL, rdSel := CX, aSel := .MDR,
      next := 0x356 },
    { aSel := .MAR, bSel := .IMMEDIATE, immediate := some 0x2#16,
      aluOp := .ADD, marWrSel := .Q, marWrite := true, segmentForce := true,
      segment := .SS, next := 0x357 },
    { segmentForce := true, segment := .SS, memRead := true,
      rdSelSource := .MICROCODE_RD_SEL, rdSel := AX, aSel := .MDR,
      next := 0x358 },
    { aSel := .MAR, bSel := .IMMEDIATE, immediate := some 0x2#16,
      aluOp := .ADD, rdSelSource := .MICROCODE_RD_SEL, rdSel := SP,
      nextInstruction := true, next := 0x359 }
  ]

def rclWords : List Microinstruction :=
  shifts 0x359 .RCL [.OF, .CF] [.CF]

def rcrWords : List Microinstruction :=
  shifts 0x364 .RCR [.OF, .CF] [.CF]

def retWords : List Microinstruction :=
  [
    { marWrite := true, marWrSel := .Q, segment := .SS, segmentForce := true,
      next := 0x370 },
    { segment := .SS, segmentForce := true, memRead := true, aSel := .MAR,
      bSel := .IMMEDIATE, immediate := some 0x2#16, aluOp := .ADD,
      rdSelSource := .MICROCODE_RD_SEL, rdSel := SP, next := 0x371 },
    { aSel := .MDR, loadIp := true, nextInstruction := true, next := 0x372 },
    { marWrite := true, marWrSel := .Q, segment := .SS, segmentForce := true,
      next := 0x373 },
    { segment := .SS, segmentForce := true, memRead := true, aSel := .MAR,
      bSel := .IMMEDIATE, immediate := some 0x2#16, aluOp := .ADD,
      rdSelSource := .MICROCODE_RD_SEL, rdSel := SP, next := 0x374 },
    { aSel := .MDR, loadIp := true, raSel := SP, next := 0x375 },
    { bSel := .IMMEDIATE, aluOp := .ADD, rdSelSource := .MICROCODE_RD_SEL,
      rdSel := SP, nextInstruction := true, next := 0x376 },
    { marWrite := true, marWrSel := .Q, segment := .SS, segmentForce := true,
      next := 0x377 },
    { segment := .SS, segmentForce := true, memRead := true, aSel := .MAR,
      bSel := .IMMEDIATE, immediate := some 0x2#16, aluOp := .ADD,
      marWrSel := .Q, marWrite := true, next := 0x378 },
    { aSel := .MDR, loadIp := true, segmentForce := true, segment := .SS,
      next := 0x379 },
    { segment := .SS, segmentForce := true, memRead := true, aSel := .MAR,
      bSel := .IMMEDIATE, immediate := some 0x2#16, aluOp := .ADD,
      rdSelSource := .MICROCODE_RD_SEL, rdSel := SP, next := 0x37a },
    { aSel := .MDR, segmentForce := true, segment := .CS, segmentWrEn := true,
      nextInstruction := true, next := 0x37b },
    { marWrite := true, marWrSel := .Q, segment := .SS, segmentForce := true,
      next := 0x37c },
    { segment := .SS, segmentForce := true, memRead := true, aSel := .MAR,
      bSel := .IMMEDIATE, immediate := some 0x2#16, aluOp := .ADD,
      marWrSel := .Q, marWrite := true, next := 0x37d },
    { aSel := .MDR, loadIp := true, segmentForce := true, segment := .SS,
      next := 0x37e },
    { segment := .SS, segmentForce := true, memRead := true, aSel := .MAR,
      bSel := .IMMEDIATE, immediate := some 0x2#16, aluOp := .ADD,
      marWrSel := .Q, marWrite := true, next := 0x37f },
    { aSel := .MAR, bSel := .IMMEDIATE, aluOp := .ADD,
      rdSelSource := .MICROCODE_RD_SEL, rdSel := SP, next := 0x380 },
    { aSel := .MDR, segmentForce := true, segment := .CS, segmentWrEn := true,
      nextInstruction := true, next := 0x381 },
    { marWrite := true, marWrSel := .Q, segment := .SS, segmentForce := true,
      next := 0x382 },
    { segment := .SS, segmentForce := true, memRead := true, aSel := .MAR,
      bSel := .IMMEDIATE, immediate := some 0x2#16, aluOp := .ADD,
      marWrSel := .Q, marWrite := true, next := 0x383 },
    { aSel := .MDR, loadIp := true, segmentForce := true, segment := .SS,
      next := 0x384 },
    { segment := .SS, segmentForce := true, memRead := true, next := 0x385 },
    { aSel := .MDR, segmentForce := true, segment := .CS, segmentWrEn := true,
      next := 0x386 },
    { aSel := .MAR, bSel := .IMMEDIATE, immediate := some 0x2#16,
      aluOp := .ADD, marWrSel := .Q, marWrite := true, segment := .SS,
      segmentForce := true, next := 0x387 },
    { segment := .SS, segmentForce := true, memRead := true, aSel := .MDR,
      aluOp := .SETFLAGSA,
      updateFlags := [.CF, .PF, .AF, .ZF, .SF, .TF, .IF, .DF, .OF],
      next := 0x388 },
    { aSel := .MAR, bSel := .IMMEDIATE, immediate := some 0x2#16,
      aluOp := .ADD, rdSel := SP, rdSelSource := .MICROCODE_RD_SEL,
      extIntInhibit := true, nextInstruction := true, next := 0x389 }
  ]

def rolWords : List Microinstruction :=
  shifts 0x389 .ROL [.OF, .CF] [.CF]

def rorWords : List Microinstruction :=
  shifts 0x394 .ROR [.OF, .CF] [.CF]

def sarWords : List Microinstruction :=
  shifts 0x39f .SAR [.OF, .CF, .ZF, .PF, .SF] [.CF, .ZF, .PF, .SF]

def sbbWords : List Microinstruction :=
  arithmetic 0x3aa .SBB .SBBREV [.OF, .SF, .ZF, .AF, .CF, .PF]

def scasWords : List Microinstruction :=
  [
    { raSel := DI, marWrSel := .Q, marWrite := true, rbCl := true,
      jumpType := .HAS_NO_REP_PREFIX, next := 0x3bc },
    { raSel := CX, jumpType := .RB_ZERO, next := 0x3bf },
    { raSel := DI, bSel := .IMMEDIATE, immediate := some 0x1#16,
      aluOp := .SUB, rdSelSource := .MICROCODE_RD_SEL, rdSel := CX,
      segment := .ES, segmentForce := true, next := 0x3bc },
    { width := .W8, segment := .ES, segmentForce := true, memRead := true,
      raSel := AL, tmpWrEn := true, next := 0x3bd },
    { width := .W8, aSel := .MDR, bSel := .TEMP, aluOp := .SUBREV,
      updateFlags := [.OF, .SF, .ZF, .CF, .PF, .AF],
      jumpType := .HAS_NO_REP_PREFIX, next := 0x3c0 },
    { aSel := .MAR, bSel := .IMMEDIATE, immediate := some 0x1#16,
      aluOp := .NEXT, rdSelSource := .MICROCODE_RD_SEL, rdSel := DI,
      marWrite := true, marWrSel := .Q, rbCl := true, extIntYield := true,
      segment := .ES, segmentForce := true, jumpType := .REP_NOT_COMPLETE,
      next := 0x3ba },
    { nextInstruction := true, next := 0x3c0 },
    { aSel := .MAR, bSel := .IMMEDIATE, immediate := some 0x1#16,
      aluOp := .NEXT, rdSelSource := .MICROCODE_RD_SEL, rdSel := DI,
      nextInstruction := true, next := 0x3c1 },
    { raSel := DI, marWrSel := .Q, marWrite := true, rbCl := true,
      jumpType := .HAS_NO_REP_PREFIX, next := 0x3c4 },
    { raSel := CX, jumpType := .RB_ZERO, next := 0x3c7 },
    { raSel := DI, bSel := .IMMEDIATE, immediate := some 0x1#16,
      aluOp := .SUB, rdSelSource := .MICROCODE_RD_SEL, rdSel := CX,
      segment := .ES, segmentForce := true, next := 0x3c4 },
    { segment := .ES, segmentForce := true, memRead := true, raSel := AX,
      tmpWrEn := true, next := 0x3c5 },
    { aSel := .MDR, bSel := .TEMP, aluOp := .SUBREV,
      updateFlags := [.OF, .SF, .ZF, .CF, .PF, .AF],
      jumpType := .HAS_NO_REP_PREFIX, next := 0x3c8 },
    { aSel := .MAR, bSel := .IMMEDIATE, immediate := some 0x2#16,
      aluOp := .NEXT, rdSelSource := .MICROCODE_RD_SEL, rdSel := DI,
      marWrite := true, marWrSel := .Q, rbCl := true, extIntYield := true,
      segment := .ES, segmentForce := true, jumpType := .REP_NOT_COMPLETE,
      next := 0x3c2 },
    { nextInstruction := true, next := 0x3c8 },
    { aSel := .MAR, bSel := .IMMEDIATE, immediate := some 0x2#16,
      aluOp := .NEXT, rdSelSource := .MICROCODE_RD_SEL, rdSel := DI,
      nextInstruction := true, next := 0x3c9 }
  ]

def shlWords : List Microinstruction :=
  shifts 0x3c9 .SHL [.OF, .CF, .ZF, .PF, .SF] [.CF, .ZF, .PF, .SF]

def shrWords : List Microinstruction :=
  shifts 0x3d4 .SHR [.OF, .CF, .ZF, .PF, .SF] [.CF, .ZF, .PF, .SF]

def stosWords : List Microinstruction :=
  [
    { width := .W8, mdrWrite := true, next := 0x3e0 },
    { raSel := DI, rbCl := true, jumpType := .HAS_NO_REP_PREFIX,
      next := 0x3e3 },
    { raSel := CX, jumpType := .RB_ZERO, next := 0x3e9 },
    { raSel := DI, bSel := .IMMEDIATE, immediate := some 0x1#16,
      aluOp := .SUB, rdSelSource := .MICROCODE_RD_SEL, rdSel := CX,
      next := 0x3e3 },
    { raSel := DI, marWrSel := .Q, marWrite := true, next := 0x3e4 },
    { bSel := .IMMEDIATE, immediate := some 0x1#16, aluOp := .NEXT,
      rdSelSource := .MICROCODE_RD_SEL, rdSel := DI, next := 0x3e5 },
    { width := .W8, raSel := AL, next := 0x3e6 },
    { width := .W8, mdrWrite := true, segment := .ES, segmentForce := true,
      next := 0x3e7 },
    { width := .W8, segment := .ES, segmentForce := true, memWrite := true,
      jumpType := .HAS_NO_REP_PREFIX, next := 0x3e9 },
    { rbCl := true, extIntYield := true, next := 0x3e1 },
    { nextInstruction := true, next := 0x3ea },
    { mdrWrite := true, raSel := DI, rbCl := true,
      jumpType := .HAS_NO_REP_PREFIX, next := 0x3ed },
    { raSel := CX, jumpType := .RB_ZERO, next := 0x3f1 },
    { raSel := DI, bSel := .IMMEDIATE, immediate := some 0x1#16,
      aluOp := .SUB, rdSelSource := .MICROCODE_RD_SEL, rdSel := CX,
      next := 0x3ed },
    { raSel := DI, marWrSel := .Q, marWrite := true, next := 0x3ee },
    { bSel := .IMMEDIATE, immediate := some 0x2#16, aluOp := .NEXT,
      rdSelSource := .MICROCODE_RD_SEL, rdSel := DI, segment := .ES,
      segmentForce := true, next := 0x3ef },
    { segment := .ES, segmentForce := true, memWrite := true,
      jumpType := .HAS_NO_REP_PREFIX, next := 0x3f1 },
    { rbCl := true, extIntYield := true, next := 0x3eb },
    { nextInstruction := true, next := 0x3f2 }
  ]

def subWords : List Microinstruction :=
  arithmetic 0x3f2 .SUB .SUBREV [.OF, .SF, .ZF, .AF, .CF, .PF]

def testWords : List Microinstruction :=
  let flags : List UpdateFlags := [.OF, .SF, .ZF, .CF, .PF]
  compared 0x401 .AND .RB .WAUTO flags ++
  [comparedA 0x404 .AND flags] ++
  compared 0x405 .AND .IMMEDIATE .W8 flags ++
  compared 0x408 .AND .IMMEDIATE .W16 flags

def xchgWords : List Microinstruction :=
  [
    { width := .WAUTO, marWrite := true, marWrSel := .Q, next := 0x410 },
    { segment := .DS, width := .WAUTO, memRead := true, next := 0x40d },
    { width := .WAUTO, aluOp := .SELB, marWrite := true, marWrSel := .Q,
      next := 0x40e },
    { width := .WAUTO, aSel := .MDR, rdSelSource := .MODRM_REG,
      next := 0x40f },
    { width := .WAUTO, aSel := .MAR, mdrWrite := true, marWrite := true,
      segment := .DS, next := 0x499 },
    { width := .WAUTO, aluOp := .SELB, rdSelSource := .MODRM_RM_REG,
      next := 0x411 },
    { width := .WAUTO, aSel := .MAR, rdSelSource := .MODRM_REG,
      nextInstruction := true, next := 0x412 },
    { marWrite := true, marWrSel := .Q, raSel := AX, next := 0x413 },
    { rdSelSource := .MICROCODE_RD_SEL, rdSel := CX, next := 0x414 },
    { aSel := .MAR, rdSelSource := .MICROCODE_RD_SEL, rdSel := AX,
      nextInstruction := true, next := 0x415 },
    { marWrite := true, marWrSel := .Q, raSel := AX, next := 0x416 },
    { rdSelSource := .MICROCODE_RD_SEL, rdSel := DX, next := 0x417 },
    { aSel := .MAR, rdSelSource := .MICROCODE_RD_SEL, rdSel := AX,
      nextInstruction := true, next := 0x418 },
    { marWrite := true, marWrSel := .Q, raSel := AX, next := 0x419 },
    { rdSelSource := .MICROCODE_RD_SEL, rdSel := BX, next := 0x41a },
    { aSel := .MAR, rdSelSource := .MICROCODE_RD_SEL, rdSel := AX,
      nextInstruction := true, next := 0x41b },
    { marWrite := true, marWrSel := .Q, raSel := AX, next := 0x41c },
    { rdSelSource := .MICROCODE_RD_SEL, rdSel := SP, next := 0x41d },
    { aSel := .MAR, rdSelSource := .MICROCODE_RD_SEL, rdSel := AX,
      nextInstruction := true, next := 0x41e },
    { marWrite := true, marWrSel := .Q, raSel := AX, next := 0x41f },
    { rdSelSource := .MICROCODE_RD_SEL, rdSel := BP, next := 0x420 },
    { aSel := .MAR, rdSelSource := .MICROCODE_RD_SEL, rdSel := AX,
      nextInstruction := true, next := 0x421 },
    { marWrite := true, marWrSel := .Q, raSel := AX, next := 0x422 },
    { rdSelSource := .MICROCODE_RD_SEL, rdSel := SI, next := 0x423 },
    { aSel := .MAR, rdSelSource := .MICROCODE_RD_SEL, rdSel := AX,
      nextInstruction := true, next := 0x424 },
    { marWrite := true, marWrSel := .Q, raSel := AX, next := 0x425 },
    { rdSelSource := .MICROCODE_RD_SEL, rdSel := DI, next := 0x426 },
    { aSel := .MAR, rdSelSource := .MICROCODE_RD_SEL, rdSel := AX,
      nextInstruction := true, next := 0x427 }
  ]

def xlatWords : List Microinstruction :=
  [
    { tmpWrEn := true, raSel := BX, next := 0x428 },
    { marWrSel := .Q, marWrite := true, next := 0x429 },
    { aSel := .MAR, bSel := .TEMP, aluOp := .ADD, marWrSel := .Q,
      marWrite := true, segment := .DS, next := 0x42a },
    { segment := .DS, width := .W8, memRead := true, aSel := .MDR,
      rdSelSource := .MICROCODE_RD_SEL, rdSel := AL, nextInstruction := true,
      next := 0x42b }
  ]

def xorWords : List Microinstruction :=
  arithmetic 0x42b .XOR .XOR [.OF, .SF, .ZF, .CF, .PF]

def microcodeWords : List Microinstruction :=
  [
    { bSel := .IMMEDIATE, immediate := some 0x18#16, aluOp := .SELB,
      tmpWrEn := true, next := 0x12d },
    { width := .WAUTO, raModrmRmReg := true, segment := .DS,
      jumpType := .RM_REG_MEM, next := 0x14c },
    { width := .WAUTO, raModrmRmReg := true, segment := .DS,
      jumpType := .RM_REG_MEM, next := 0x2ef },
    { width := .WAUTO, raModrmRmReg := true, segment := .DS,
      jumpType := .RM_REG_MEM, next := 0x13d },
    { width := .WAUTO, raModrmRmReg := true, segment := .DS,
      jumpType := .RM_REG_MEM, next := 0x3b1 },
    { width := .WAUTO, raModrmRmReg := true, segment := .DS,
      jumpType := .RM_REG_MEM, next := 0x15b },
    { width := .WAUTO, raModrmRmReg := true, segment := .DS,
      jumpType := .RM_REG_MEM, next := 0x3f9 },
    { width := .WAUTO, raModrmRmReg := true, segment := .DS,
      jumpType := .RM_REG_MEM, next := 0x432 },
    { width := .WAUTO, raModrmRmReg := true, segment := .DS,
      jumpType := .RM_REG_MEM, next := 0x193 },
    { segment := .DS, jumpType := .RM_REG_MEM, next := 0x14f },
    { segment := .DS, jumpType := .RM_REG_MEM, next := 0x2f2 },
    { segment := .DS, jumpType := .RM_REG_MEM, next := 0x140 },
    { segment := .DS, jumpType := .RM_REG_MEM, next := 0x3b4 },
    { segment := .DS, jumpType := .RM_REG_MEM, next := 0x15e },
    { segment := .DS, jumpType := .RM_REG_MEM, next := 0x3fc },
    { segment := .DS, jumpType := .RM_REG_MEM, next := 0x435 },
    { segment := .DS, jumpType := .RM_REG_MEM, next := 0x196 },
    { raSel := SP, jumpType := .RM_REG_MEM, next := 0x2f7 },
    { nextInstruction := true, next := 0x44d },
    { nextInstruction := true, next := 0x44e },
    { nextInstruction := true, next := 0x44f },
    { nextInstruction := true, next := 0x450 },
    { nextInstruction := true, next := 0x451 },
    { nextInstruction := true, next := 0x452 },
    { nextInstruction := true, next := 0x453 },
    { width := .WAUTO, raModrmRmReg := true, segment := .DS,
      jumpType := .RM_REG_MEM, next := 0x389 },
    { width := .WAUTO, raModrmRmReg := true, segment := .DS,
      jumpType := .RM_REG_MEM, next := 0x394 },
    { width := .WAUTO, raModrmRmReg := true, segment := .DS,
      jumpType := .RM_REG_MEM, next := 0x359 },
    { width := .WAUTO, raModrmRmReg := true, segment := .DS,
      jumpType := .RM_REG_MEM, next := 0x364 },
    { width := .WAUTO, raModrmRmReg := true, segment := .DS,
      jumpType := .RM_REG_MEM, next := 0x3c9 },
    { width := .WAUTO, raModrmRmReg := true, segment := .DS,
      jumpType := .RM_REG_MEM, next := 0x3d4 },
    { width := .WAUTO, raModrmRmReg := true, segment := .DS,
      jumpType := .RM_REG_MEM, next := 0x3c9 },
    { width := .WAUTO, raModrmRmReg := true, segment := .DS,
      jumpType := .RM_REG_MEM, next := 0x39f },
    { width := .W8, tmpWrEn := true, aluOp := .SELB, bSel := .IMMEDIATE,
      raModrmRmReg := true, segment := .DS, jumpType := .RM_REG_MEM,
      next := 0x390 },
    { width := .W8, tmpWrEn := true, aluOp := .SELB, bSel := .IMMEDIATE,
      raModrmRmReg := true, segment := .DS, jumpType := .RM_REG_MEM,
      next := 0x39b },
    { width := .W8, tmpWrEn := true, aluOp := .SELB, bSel := .IMMEDIATE,
      raModrmRmReg := true, segment := .DS, jumpType := .RM_REG_MEM,
      next := 0x360 },
    { width := .W8, tmpWrEn := true, aluOp := .SELB, bSel := .IMMEDIATE,
      raModrmRmReg := true, segment := .DS, jumpType := .RM_REG_MEM,
      next := 0x36b },
    { width := .W8, tmpWrEn := true, aluOp := .SELB, bSel := .IMMEDIATE,
      raModrmRmReg := true, segment := .DS, jumpType := .RM_REG_MEM,
      next := 0x3d0 },
    { width := .W8, tmpWrEn := true, aluOp := .SELB, bSel := .IMMEDIATE,
      raModrmRmReg := true, segment := .DS, jumpType := .RM_REG_MEM,
      next := 0x3db },
    { width := .W8, tmpWrEn := true, aluOp := .SELB, bSel := .IMMEDIATE,
      raModrmRmReg := true, segment := .DS, jumpType := .RM_REG_MEM,
      next := 0x3d0 },
    { width := .W8, tmpWrEn := true, aluOp := .SELB, bSel := .IMMEDIATE,
      raModrmRmReg := true, segment := .DS, jumpType := .RM_REG_MEM,
      next := 0x3a6 },
    { width := .W8, tmpWrEn := true, aluOp := .SELB, bSel := .IMMEDIATE,
      next := 0x393 },
    { width := .W8, tmpWrEn := true, aluOp := .SELB, bSel := .IMMEDIATE,
      next := 0x39e },
    { width := .W8, tmpWrEn := true, aluOp := .SELB, bSel := .IMMEDIATE,
      next := 0x363 },
    { width := .W8, tmpWrEn := true, aluOp := .SELB, bSel := .IMMEDIATE,
      next := 0x36e },
    { width := .W8, tmpWrEn := true, aluOp := .SELB, bSel := .IMMEDIATE,
      next := 0x3d3 },
    { width := .W8, tmpWrEn := true, aluOp := .SELB, bSel := .IMMEDIATE,
      next := 0x3de },
    { width := .W8, tmpWrEn := true, aluOp := .SELB, bSel := .IMMEDIATE,
      next := 0x3d3 },
    { width := .W8, tmpWrEn := true, aluOp := .SELB, bSel := .IMMEDIATE,
      next := 0x3a9 },
    { width := .WAUTO, raModrmRmReg := true, rbCl := true, segment := .DS,
      next := 0x38c },
    { width := .WAUTO, raModrmRmReg := true, rbCl := true, segment := .DS,
      next := 0x397 },
    { width := .WAUTO, raModrmRmReg := true, rbCl := true, segment := .DS,
      next := 0x35c },
    { width := .WAUTO, raModrmRmReg := true, rbCl := true, segment := .DS,
      next := 0x367 },
    { width := .WAUTO, raModrmRmReg := true, rbCl := true, segment := .DS,
      next := 0x3cc },
    { width := .WAUTO, raModrmRmReg := true, rbCl := true, segment := .DS,
      next := 0x3d7 },
    { width := .WAUTO, raModrmRmReg := true, rbCl := true, segment := .DS,
      next := 0x3cc },
    { width := .WAUTO, raModrmRmReg := true, rbCl := true, segment := .DS,
      next := 0x3a2 },
    { width := .W8, raModrmRmReg := true, segment := .DS,
      jumpType := .RM_REG_MEM, next := 0x405 },
    { width := .W8, raModrmRmReg := true, segment := .DS,
      jumpType := .RM_REG_MEM, next := 0x405 },
    { width := .W8, raModrmRmReg := true, segment := .DS,
      jumpType := .RM_REG_MEM, next := 0x2e5 },
    { width := .W8, raModrmRmReg := true, segment := .DS,
      jumpType := .RM_REG_MEM, next := 0x2e2 },
    { width := .W8, raModrmRmReg := true, segment := .DS,
      jumpType := .RM_REG_MEM, next := 0x2cb },
    { width := .W8, raModrmRmReg := true, segment := .DS,
      jumpType := .RM_REG_MEM, next := 0x2d5 },
    { width := .W8, raModrmRmReg := true, segment := .DS,
      jumpType := .RM_REG_MEM, next := 0x1b2 },
    { width := .W8, raModrmRmReg := true, segment := .DS,
      jumpType := .RM_REG_MEM, next := 0x1bf },
    { raModrmRmReg := true, segment := .DS, jumpType := .RM_REG_MEM,
      next := 0x408 },
    { raModrmRmReg := true, segment := .DS, jumpType := .RM_REG_MEM,
      next := 0x408 },
    { raModrmRmReg := true, segment := .DS, jumpType := .RM_REG_MEM,
      next := 0x2e5 },
    { raModrmRmReg := true, segment := .DS, jumpType := .RM_REG_MEM,
      next := 0x2e2 },
    { raModrmRmReg := true, segment := .DS, jumpType := .RM_REG_MEM,
      next := 0x2d0 },
    { raModrmRmReg := true, segment := .DS, jumpType := .RM_REG_MEM,
      next := 0x2da },
    { raModrmRmReg := true, segment := .DS, jumpType := .RM_REG_MEM,
      next := 0x1b9 },
    { raModrmRmReg := true, segment := .DS, jumpType := .RM_REG_MEM,
      next := 0x1c4 },
    { raModrmRmReg := true, segment := .DS, jumpType := .RM_REG_MEM,
      next := 0x1f0 },
    { raModrmRmReg := true, segment := .DS, jumpType := .RM_REG_MEM,
      next := 0x1f3 },
    { raModrmRmReg := true, segment := .DS, jumpType := .RM_REG_MEM,
      next := 0x172 },
    { segmentForce := true, segment := .CS, jumpType := .RM_REG_MEM,
      next := 0x17f },
    { raModrmRmReg := true, segment := .DS, jumpType := .RM_REG_MEM,
      next := 0x25b },
    { raModrmRmReg := true, segment := .DS, jumpType := .RM_REG_MEM,
      next := 0x25e },
    { raSel := SP, segment := .DS, jumpType := .RM_REG_MEM, next := 0x323 },
    { next := 0x43a },
    { bSel := .IMMEDIATE, aluOp := .SELB, immediate := some 0x0#16,
      rdSelSource := .MICROCODE_RD_SEL, rdSel := AX, next := 0x48c },
    { bSel := .IMMEDIATE, aluOp := .SELB, immediate := some 0x0#16,
      rdSelSource := .MICROCODE_RD_SEL, rdSel := CX, next := 0x48d },
    { bSel := .IMMEDIATE, aluOp := .SELB, immediate := some 0x0#16,
      rdSelSource := .MICROCODE_RD_SEL, rdSel := DX, next := 0x48e },
    { bSel := .IMMEDIATE, aluOp := .SELB, immediate := some 0x0#16,
      rdSelSource := .MICROCODE_RD_SEL, rdSel := BX, next := 0x48f },
    { bSel := .IMMEDIATE, aluOp := .SELB, immediate := some 0x0#16,
      rdSelSource := .MICROCODE_RD_SEL, rdSel := SP, next := 0x490 },
    { bSel := .IMMEDIATE, aluOp := .SELB, immediate := some 0x0#16,
      rdSelSource := .MICROCODE_RD_SEL, rdSel := BP, next := 0x491 },
    { bSel := .IMMEDIATE, aluOp := .SELB, immediate := some 0x0#16,
      rdSelSource := .MICROCODE_RD_SEL, rdSel := SI, next := 0x492 },
    { bSel := .IMMEDIATE, aluOp := .SELB, immediate := some 0x0#16,
      rdSelSource := .MICROCODE_RD_SEL, rdSel := DI, next := 0x493 },
    { bSel := .IMMEDIATE, aluOp := .SELB, immediate := some 0x0#16,
      segmentForce := true, segment := .ES, segmentWrEn := true,
      next := 0x494 },
    { bSel := .IMMEDIATE, aluOp := .SELB, immediate := some 0xffff#16,
      segmentForce := true, segment := .CS, segmentWrEn := true,
      next := 0x495 },
    { bSel := .IMMEDIATE, aluOp := .SELB, immediate := some 0x0#16,
      segmentForce := true, segment := .SS, segmentWrEn := true,
      next := 0x496 },
    { bSel := .IMMEDIATE, aluOp := .SELB, immediate := some 0x0#16,
      segmentForce := true, segment := .DS, segmentWrEn := true,
      next := 0x497 },
    { nextInstruction := true, next := 0x100 },
    { segment := .DS, memWrite := true, nextInstruction := true,
      next := 0x499 },
    { segment := .DS, memWrite := true, width := .WAUTO,
      nextInstruction := true, next := 0x49a }
  ]

def debugWords : List Microinstruction :=
  [
    { tmpWrEn := true, next := 0x102 },
    { bSel := .SR, aluOp := .SELB, tmpWrEn := true, next := 0x102 },
    { segmentForce := true, segment := .DS, width := .W8, memRead := true,
      next := 0x49d },
    { aSel := .MDR, tmpWrEn := true, next := 0x49e },
    { aSel := .MAR, bSel := .IMMEDIATE, immediate := some 0x1#16,
      aluOp := .ADD, marWrSel := .Q, marWrite := true, next := 0x102 },
    { segmentForce := true, segment := .DS, memRead := true, next := 0x4a0 },
    { aSel := .MDR, tmpWrEn := true, next := 0x4a1 },
    { aSel := .MAR, bSel := .IMMEDIATE, immediate := some 0x2#16,
      aluOp := .ADD, marWrSel := .Q, marWrite := true, next := 0x102 },
    { segmentForce := true, segment := .DS, width := .W8, memWrite := true,
      next := 0x4a3 },
    { aSel := .MAR, bSel := .IMMEDIATE, immediate := some 0x1#16,
      aluOp := .ADD, marWrSel := .Q, marWrite := true, next := 0x102 },
    { segmentForce := true, segment := .DS, memWrite := true, next := 0x4a5 },
    { aSel := .MAR, bSel := .IMMEDIATE, immediate := some 0x2#16,
      aluOp := .ADD, marWrSel := .Q, marWrite := true, next := 0x102 },
    { segmentForce := true, segment := .DS, width := .W8, memRead := true,
      io := true, next := 0x4a7 },
    { aSel := .MDR, tmpWrEn := true, next := 0x102 },
    { segmentForce := true, segment := .DS, memRead := true, io := true,
      next := 0x4a9 },
    { aSel := .MDR, tmpWrEn := true, next := 0x102 },
    { segmentForce := true, segment := .DS, width := .W8, memWrite := true,
      io := true, next := 0x102 },
    { segmentForce := true, segment := .DS, memWrite := true, io := true,
      next := 0x102 }
  ]

/-!
## The store
-/

/-- Consecutive words with the address of the first. -/
def blocks : List (Nat × List Microinstruction) :=
  [
    (0x0, opcodes00), (0x10, opcodes10), (0x20, opcodes20), (0x30, opcodes30),
    (0x40, opcodes40), (0x50, opcodes50), (0x60, opcodes60), (0x70, opcodes70),
    (0x80, opcodes80), (0x90, opcodes90), (0xa0, opcodesA0), (0xb0, opcodesB0),
    (0xc0, opcodesC0), (0xd0, opcodesD0), (0xe0, opcodesE0), (0xf0, opcodesF0),
    (0x100, fixed), (0x130, aaaWords), (0x131, aadWords), (0x135, aasWords),
    (0x136, adcWords), (0x145, addWords), (0x154, andWords),
    (0x163, boundWords), (0x16d, daaWords), (0x16e, dasWords),
    (0x16f, callWords), (0x18c, cmpWords), (0x19b, cmpsWords),
    (0x1b2, divWords), (0x1cf, enterWords), (0x1e2, escWords),
    (0x1e3, extendWords), (0x1e5, flagsWords), (0x1e7, hltWords),
    (0x1e8, incWords), (0x206, intWords), (0x21c, ioWords), (0x25a, jmpWords),
    (0x26a, ldsWords), (0x270, leaWords), (0x272, leaveWords),
    (0x276, lesWords), (0x27c, lodsWords), (0x28c, loopWords),
    (0x297, movWords), (0x2b6, movsWords), (0x2cb, mulWords),
    (0x2e2, negWords), (0x2e5, notWords), (0x2e8, orWords), (0x2f7, popWords),
    (0x323, pushWords), (0x359, rclWords), (0x364, rcrWords),
    (0x36f, retWords), (0x389, rolWords), (0x394, rorWords), (0x39f, sarWords),
    (0x3aa, sbbWords), (0x3b9, scasWords), (0x3c9, shlWords),
    (0x3d4, shrWords), (0x3df, stosWords), (0x3f2, subWords),
    (0x401, testWords), (0x40b, xchgWords), (0x427, xlatWords),
    (0x42b, xorWords), (0x43a, microcodeWords), (0x49a, debugWords)
  ]

def readBlocks : List (Nat × List Microinstruction) -> Nat ->
    Option Microinstruction
  | [], _ => none
  | (base, words) :: rest, addr =>
      if addr < base + words.length then words[addr - base]?
      else readBlocks rest addr

def numInstructions : Nat := 0x4ac

/-- The word at an address of the store. -/
def mem (addr : Nat) : Microinstruction :=
  (readBlocks blocks addr).getD { next := 0 }

end Microcode
end Rtl
end S80x86
