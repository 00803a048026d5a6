import S80x86.Rtl.Microinstruction

/-!
# The microcode store: entry points

The words at the addresses that are the opcodes, sixteen to a list, and the
ones at fixed addresses after them: opcode fetch, divide error, the debugger,
reset, the interrupts and invalid opcodes.
-/

namespace S80x86
namespace Rtl
namespace Microcode

open GPR

def opcodes00 : List Microinstruction :=
  [
    { marWrite := true, width := .WAUTO, raModrmRmReg := true, segment := .DS,
      jumpType := .RM_REG_MEM, next := 0x145 },
    { marWrite := true, width := .WAUTO, raModrmRmReg := true, segment := .DS,
      jumpType := .RM_REG_MEM, next := 0x145 },
    { marWrite := true, width := .WAUTO, raModrmRmReg := true, segment := .DS,
      jumpType := .RM_REG_MEM, next := 0x148 },
    { marWrite := true, width := .WAUTO, raModrmRmReg := true, segment := .DS,
      jumpType := .RM_REG_MEM, next := 0x148 },
    { width := .WAUTO, raSel := AL, next := 0x14b },
    { width := .WAUTO, raSel := AL, next := 0x14b },
    { segmentForce := true, segment := .ES, next := 0x32e },
    { raSel := SP, next := 0x2ff },
    { marWrite := true, width := .WAUTO, raModrmRmReg := true, segment := .DS,
      jumpType := .RM_REG_MEM, next := 0x2e8 },
    { marWrite := true, width := .WAUTO, raModrmRmReg := true, segment := .DS,
      jumpType := .RM_REG_MEM, next := 0x2e8 },
    { marWrite := true, width := .WAUTO, raModrmRmReg := true, segment := .DS,
      jumpType := .RM_REG_MEM, next := 0x2eb },
    { marWrite := true, width := .WAUTO, raModrmRmReg := true, segment := .DS,
      jumpType := .RM_REG_MEM, next := 0x2eb },
    { width := .WAUTO, raSel := AL, next := 0x2ee },
    { width := .WAUTO, raSel := AL, next := 0x2ee },
    { segmentForce := true, segment := .CS, next := 0x32e },
    { next := 0x43a }
  ]

def opcodes10 : List Microinstruction :=
  [
    { marWrite := true, width := .WAUTO, raModrmRmReg := true, segment := .DS,
      jumpType := .RM_REG_MEM, next := 0x136 },
    { marWrite := true, width := .WAUTO, raModrmRmReg := true, segment := .DS,
      jumpType := .RM_REG_MEM, next := 0x136 },
    { marWrite := true, width := .WAUTO, raModrmRmReg := true, segment := .DS,
      jumpType := .RM_REG_MEM, next := 0x139 },
    { marWrite := true, width := .WAUTO, raModrmRmReg := true, segment := .DS,
      jumpType := .RM_REG_MEM, next := 0x139 },
    { width := .WAUTO, raSel := AL, next := 0x13c },
    { width := .WAUTO, raSel := AL, next := 0x13c },
    { segmentForce := true, segment := .SS, next := 0x32e },
    { raSel := SP, next := 0x302 },
    { marWrite := true, width := .WAUTO, raModrmRmReg := true, segment := .DS,
      jumpType := .RM_REG_MEM, next := 0x3aa },
    { marWrite := true, width := .WAUTO, raModrmRmReg := true, segment := .DS,
      jumpType := .RM_REG_MEM, next := 0x3aa },
    { marWrite := true, width := .WAUTO, raModrmRmReg := true, segment := .DS,
      jumpType := .RM_REG_MEM, next := 0x3ad },
    { marWrite := true, width := .WAUTO, raModrmRmReg := true, segment := .DS,
      jumpType := .RM_REG_MEM, next := 0x3ad },
    { width := .WAUTO, raSel := AL, next := 0x3b0 },
    { width := .WAUTO, raSel := AL, next := 0x3b0 },
    { segmentForce := true, segment := .DS, next := 0x32e },
    { raSel := SP, next := 0x305 }
  ]

def opcodes20 : List Microinstruction :=
  [
    { marWrite := true, width := .WAUTO, raModrmRmReg := true, segment := .DS,
      jumpType := .RM_REG_MEM, next := 0x154 },
    { marWrite := true, width := .WAUTO, raModrmRmReg := true, segment := .DS,
      jumpType := .RM_REG_MEM, next := 0x154 },
    { marWrite := true, width := .WAUTO, raModrmRmReg := true, segment := .DS,
      jumpType := .RM_REG_MEM, next := 0x157 },
    { marWrite := true, width := .WAUTO, raModrmRmReg := true, segment := .DS,
      jumpType := .RM_REG_MEM, next := 0x157 },
    { width := .WAUTO, raSel := AL, next := 0x15a },
    { width := .WAUTO, raSel := AL, next := 0x15a },
    { nextInstruction := true, next := 0x27 },
    { raSel := AX, next := 0x16d },
    { marWrite := true, width := .WAUTO, raModrmRmReg := true, segment := .DS,
      jumpType := .RM_REG_MEM, next := 0x3f2 },
    { marWrite := true, width := .WAUTO, raModrmRmReg := true, segment := .DS,
      jumpType := .RM_REG_MEM, next := 0x3f2 },
    { marWrite := true, width := .WAUTO, raModrmRmReg := true, segment := .DS,
      jumpType := .RM_REG_MEM, next := 0x3f5 },
    { marWrite := true, width := .WAUTO, raModrmRmReg := true, segment := .DS,
      jumpType := .RM_REG_MEM, next := 0x3f5 },
    { width := .WAUTO, raSel := AL, next := 0x3f8 },
    { width := .WAUTO, raSel := AL, next := 0x3f8 },
    { nextInstruction := true, next := 0x2f },
    { raSel := AX, next := 0x16e }
  ]

def opcodes30 : List Microinstruction :=
  [
    { marWrite := true, width := .WAUTO, raModrmRmReg := true, segment := .DS,
      jumpType := .RM_REG_MEM, next := 0x42b },
    { marWrite := true, width := .WAUTO, raModrmRmReg := true, segment := .DS,
      jumpType := .RM_REG_MEM, next := 0x42b },
    { marWrite := true, width := .WAUTO, raModrmRmReg := true, segment := .DS,
      jumpType := .RM_REG_MEM, next := 0x42e },
    { marWrite := true, width := .WAUTO, raModrmRmReg := true, segment := .DS,
      jumpType := .RM_REG_MEM, next := 0x42e },
    { width := .WAUTO, raSel := AL, next := 0x431 },
    { width := .WAUTO, raSel := AL, next := 0x431 },
    { nextInstruction := true, next := 0x37 },
    { raSel := AX, next := 0x130 },
    { marWrite := true, width := .WAUTO, segment := .DS, raModrmRmReg := true,
      jumpType := .RM_REG_MEM, next := 0x18c },
    { marWrite := true, width := .WAUTO, segment := .DS, raModrmRmReg := true,
      jumpType := .RM_REG_MEM, next := 0x18c },
    { marWrite := true, width := .WAUTO, segment := .DS, raModrmRmReg := true,
      jumpType := .RM_REG_MEM, next := 0x18f },
    { marWrite := true, width := .WAUTO, segment := .DS, raModrmRmReg := true,
      jumpType := .RM_REG_MEM, next := 0x18f },
    { width := .WAUTO, raSel := AL, next := 0x192 },
    { width := .WAUTO, raSel := AL, next := 0x192 },
    { nextInstruction := true, next := 0x3f },
    { raSel := AX, next := 0x135 }
  ]

def opcodes40 : List Microinstruction :=
  [
    { raSel := AX, next := 0x1f6 },
    { raSel := CX, next := 0x1f7 },
    { raSel := DX, next := 0x1f8 },
    { raSel := BX, next := 0x1f9 },
    { raSel := SP, next := 0x1fa },
    { raSel := BP, next := 0x1fb },
    { raSel := SI, next := 0x1fc },
    { raSel := DI, next := 0x1fd },
    { raSel := AX, next := 0x1fe },
    { raSel := CX, next := 0x1ff },
    { raSel := DX, next := 0x200 },
    { raSel := BX, next := 0x201 },
    { raSel := SP, next := 0x202 },
    { raSel := BP, next := 0x203 },
    { raSel := SI, next := 0x204 },
    { raSel := DI, next := 0x205 }
  ]

def opcodes50 : List Microinstruction :=
  [
    { raSel := AX, next := 0x329 },
    { raSel := CX, next := 0x329 },
    { raSel := DX, next := 0x329 },
    { raSel := BX, next := 0x329 },
    { raSel := SP, next := 0x32c },
    { raSel := BP, next := 0x329 },
    { raSel := SI, next := 0x329 },
    { raSel := DI, next := 0x329 },
    { raSel := SP, next := 0x308 },
    { raSel := SP, next := 0x30b },
    { raSel := SP, next := 0x30e },
    { raSel := SP, next := 0x311 },
    { raSel := SP, next := 0x314 },
    { raSel := SP, next := 0x317 },
    { raSel := SP, next := 0x31a },
    { raSel := SP, next := 0x31d }
  ]

def opcodes60 : List Microinstruction :=
  [
    { raSel := SP, next := 0x339 },
    { raSel := SP, next := 0x34a },
    { marWrite := true, segment := .DS, jumpType := .RM_REG_MEM,
      next := 0x163 },
    { next := 0x43a },
    { next := 0x43a },
    { next := 0x43a },
    { next := 0x43a },
    { next := 0x43a },
    { raSel := SP, next := 0x331 },
    { marWrite := true, raModrmRmReg := true, segment := .DS,
      jumpType := .RM_REG_MEM, next := 0x2df },
    { raSel := SP, next := 0x334 },
    { marWrite := true, raModrmRmReg := true, segment := .DS,
      jumpType := .RM_REG_MEM, next := 0x2df },
    { next := 0x240 },
    { next := 0x24d },
    { next := 0x228 },
    { next := 0x234 }
  ]

def opcodes70 : List Microinstruction :=
  [
    { next := 0x267 },
    { next := 0x267 },
    { next := 0x267 },
    { next := 0x267 },
    { next := 0x267 },
    { next := 0x267 },
    { next := 0x267 },
    { next := 0x267 },
    { next := 0x267 },
    { next := 0x267 },
    { next := 0x267 },
    { next := 0x267 },
    { next := 0x267 },
    { next := 0x267 },
    { next := 0x267 },
    { next := 0x267 }
  ]

def opcodes80 : List Microinstruction :=
  [
    { marWrite := true, jumpType := .DISPATCH_REG, next := 0x43b },
    { marWrite := true, jumpType := .DISPATCH_REG, next := 0x43b },
    { marWrite := true, jumpType := .DISPATCH_REG, next := 0x43b },
    { marWrite := true, jumpType := .DISPATCH_REG, next := 0x443 },
    { marWrite := true, width := .WAUTO, segment := .DS, raModrmRmReg := true,
      jumpType := .RM_REG_MEM, next := 0x401 },
    { marWrite := true, width := .WAUTO, segment := .DS, raModrmRmReg := true,
      jumpType := .RM_REG_MEM, next := 0x401 },
    { width := .WAUTO, marWrite := true, raModrmRmReg := true, segment := .DS,
      jumpType := .RM_REG_MEM, next := 0x40b },
    { marWrite := true, raModrmRmReg := true, segment := .DS,
      jumpType := .RM_REG_MEM, next := 0x40b },
    { marWrite := true, width := .W8, jumpType := .RM_REG_MEM, next := 0x297 },
    { marWrite := true, jumpType := .RM_REG_MEM, next := 0x297 },
    { marWrite := true, raModrmRmReg := true, width := .W8, segment := .DS,
      jumpType := .RM_REG_MEM, next := 0x299 },
    { marWrite := true, raModrmRmReg := true, segment := .DS,
      jumpType := .RM_REG_MEM, next := 0x299 },
    { marWrite := true, jumpType := .DISPATCH_REG, next := 0x2ac },
    { marWrite := true, segment := .DS, jumpType := .RM_REG_MEM,
      next := 0x270 },
    { marWrite := true, raModrmRmReg := true, segment := .DS,
      jumpType := .RM_REG_MEM, next := 0x2a9 },
    { marWrite := true, segment := .SS, jumpType := .DISPATCH_REG,
      next := 0x44b }
  ]

def opcodes90 : List Microinstruction :=
  [
    { nextInstruction := true, next := 0x91 },
    { raSel := CX, next := 0x412 },
    { raSel := DX, next := 0x415 },
    { raSel := BX, next := 0x418 },
    { raSel := SP, next := 0x41b },
    { raSel := BP, next := 0x41e },
    { raSel := SI, next := 0x421 },
    { raSel := DI, next := 0x424 },
    { width := .W8, raSel := AL, next := 0x1e3 },
    { raSel := AX, next := 0x1e4 },
    { mdrWrite := true, bSel := .IMMEDIATE, aluOp := .SELB, loadIp := true,
      segment := .CS, next := 0x178 },
    { nextInstruction := true, next := 0x9c },
    { aluOp := .GETFLAGS, mdrWrite := true, raSel := SP, next := 0x337 },
    { raSel := SP, next := 0x320 },
    { raSel := AH, width := .W8, next := 0x1e5 },
    { aluOp := .GETFLAGS, rdSelSource := .MICROCODE_RD_SEL, rdSel := AH,
      width := .W8, nextInstruction := true, next := 0xa0 }
  ]

def opcodesA0 : List Microinstruction :=
  [
    { marWrite := true, marWrSel := .Q, bSel := .IMMEDIATE, aluOp := .SELB,
      segment := .DS, next := 0x2a6 },
    { marWrite := true, marWrSel := .Q, bSel := .IMMEDIATE, aluOp := .SELB,
      segment := .DS, next := 0x2a6 },
    { marWrite := true, marWrSel := .Q, bSel := .IMMEDIATE, aluOp := .SELB,
      raSel := AL, next := 0x2a8 },
    { marWrite := true, marWrSel := .Q, bSel := .IMMEDIATE, aluOp := .SELB,
      raSel := AL, next := 0x2a8 },
    { next := 0x2b6 },
    { next := 0x2c1 },
    { next := 0x19b },
    { next := 0x1a7 },
    { width := .WAUTO, raSel := AL, next := 0x404 },
    { width := .WAUTO, raSel := AL, next := 0x404 },
    { width := .W8, raSel := AL, next := 0x3df },
    { raSel := AX, next := 0x3ea },
    { next := 0x27c },
    { next := 0x284 },
    { raSel := DI, next := 0x3b9 },
    { raSel := DI, next := 0x3c1 }
  ]

def opcodesB0 : List Microinstruction :=
  [
    { rdSelSource := .MICROCODE_RD_SEL, rdSel := AL, aluOp := .SELB,
      bSel := .IMMEDIATE, width := .W8, nextInstruction := true,
      next := 0xb1 },
    { rdSelSource := .MICROCODE_RD_SEL, rdSel := CL, aluOp := .SELB,
      bSel := .IMMEDIATE, width := .W8, nextInstruction := true,
      next := 0xb2 },
    { rdSelSource := .MICROCODE_RD_SEL, rdSel := DL, aluOp := .SELB,
      bSel := .IMMEDIATE, width := .W8, nextInstruction := true,
      next := 0xb3 },
    { rdSelSource := .MICROCODE_RD_SEL, rdSel := BL, aluOp := .SELB,
      bSel := .IMMEDIATE, width := .W8, nextInstruction := true,
      next := 0xb4 },
    { rdSelSource := .MICROCODE_RD_SEL, rdSel := AH, aluOp := .SELB,
      bSel := .IMMEDIATE, width := .W8, nextInstruction := true,
      next := 0xb5 },
    { rdSelSource := .MICROCODE_RD_SEL, rdSel := CH, aluOp := .SELB,
      bSel := .IMMEDIATE, width := .W8, nextInstruction := true,
      next := 0xb6 },
    { rdSelSource := .MICROCODE_RD_SEL, rdSel := DH, aluOp := .SELB,
      bSel := .IMMEDIATE, width := .W8, nextInstruction := true,
      next := 0xb7 },
    { rdSelSource := .MICROCODE_RD_SEL, rdSel := BH, aluOp := .SELB,
      bSel := .IMMEDIATE, width := .W8, nextInstruction := true,
      next := 0xb8 },
    { rdSelSource := .MICROCODE_RD_SEL, rdSel := AX, aluOp := .SELB,
      bSel := .IMMEDIATE, nextInstruction := true, next := 0xb9 },
    { rdSelSource := .MICROCODE_RD_SEL, rdSel := CX, aluOp := .SELB,
      bSel := .IMMEDIATE, nextInstruction := true, next := 0xba },
    { rdSelSource := .MICROCODE_RD_SEL, rdSel := DX, aluOp := .SELB,
      bSel := .IMMEDIATE, nextInstruction := true, next := 0xbb },
    { rdSelSource := .MICROCODE_RD_SEL, rdSel := BX, aluOp := .SELB,
      bSel := .IMMEDIATE, nextInstruction := true, next := 0xbc },
    { rdSelSource := .MICROCODE_RD_SEL, rdSel := SP, aluOp := .SELB,
      bSel := .IMMEDIATE, nextInstruction := true, next := 0xbd },
    { rdSelSource := .MICROCODE_RD_SEL, rdSel := BP, aluOp := .SELB,
      bSel := .IMMEDIATE, nextInstruction := true, next := 0xbe },
    { rdSelSource := .MICROCODE_RD_SEL, rdSel := SI, aluOp := .SELB,
      bSel := .IMMEDIATE, nextInstruction := true, next := 0xbf },
    { rdSelSource := .MICROCODE_RD_SEL, rdSel := DI, aluOp := .SELB,
      bSel := .IMMEDIATE, nextInstruction := true, next := 0xc0 }
  ]

def opcodesC0 : List Microinstruction :=
  [
    { width := .W8, marWrite := true, jumpType := .DISPATCH_REG,
      next := 0x45b },
    { marWrite := true, jumpType := .DISPATCH_REG, next := 0x463 },
    { raSel := SP, next := 0x372 },
    { raSel := SP, next := 0x36f },
    { marWrite := true, segment := .DS, jumpType := .RM_REG_MEM,
      next := 0x276 },
    { marWrite := true, segment := .DS, jumpType := .RM_REG_MEM,
      next := 0x26a },
    { marWrite := true, jumpType := .DISPATCH_REG, next := 0x29c },
    { marWrite := true, jumpType := .DISPATCH_REG, next := 0x29c },
    { bSel := .IMMEDIATE, aluOp := .SELB, tmpWrEn := true, raSel := SP,
      next := 0x1cf },
    { raSel := BP, next := 0x272 },
    { raSel := SP, next := 0x37b },
    { raSel := SP, next := 0x376 },
    { bSel := .IMMEDIATE, immediate := some 0xc#16, aluOp := .SELB,
      tmpWrEn := true, next := 0x12d },
    { bSel := .IMMEDIATE, aluOp := .SELB, marWrSel := .Q, marWrite := true,
      next := 0x206 },
    { aluOp := .GETFLAGS, mdrWrite := true, next := 0x208 },
    { raSel := SP, next := 0x381 }
  ]

def opcodesD0 : List Microinstruction :=
  [
    { width := .WAUTO, marWrite := true, jumpType := .DISPATCH_REG,
      next := 0x453 },
    { marWrite := true, jumpType := .DISPATCH_REG, next := 0x453 },
    { width := .WAUTO, marWrite := true, jumpType := .DISPATCH_REG,
      next := 0x46b },
    { marWrite := true, jumpType := .DISPATCH_REG, next := 0x46b },
    { width := .W8, raModrmRmReg := true, bSel := .IMMEDIATE, aluOp := .SELB,
      mdrWrite := true, next := 0x1c8 },
    { width := .W8, raSel := AH, next := 0x131 },
    { raSel := CX, rbCl := true, next := 0x1e6 },
    { width := .W8, raSel := AL, next := 0x427 },
    { next := 0x1e2 },
    { next := 0x1e2 },
    { next := 0x1e2 },
    { next := 0x1e2 },
    { next := 0x1e2 },
    { next := 0x1e2 },
    { next := 0x1e2 },
    { next := 0x1e2 }
  ]

def opcodesE0 : List Microinstruction :=
  [
    { raSel := CX, next := 0x294 },
    { raSel := CX, next := 0x290 },
    { raSel := CX, next := 0x28c },
    { rbCl := true, next := 0x264 },
    { width := .W8, bSel := .IMMEDIATE, aluOp := .SELB, marWrSel := .Q,
      marWrite := true, next := 0x222 },
    { width := .W8, bSel := .IMMEDIATE, aluOp := .SELB, marWrSel := .Q,
      marWrite := true, next := 0x222 },
    { width := .W8, bSel := .IMMEDIATE, aluOp := .SELB, marWrSel := .Q,
      marWrite := true, raSel := AL, next := 0x21c },
    { width := .W8, bSel := .IMMEDIATE, aluOp := .SELB, marWrSel := .Q,
      marWrite := true, next := 0x21c },
    { raSel := SP, next := 0x16f },
    { aSel := .IP, bSel := .IMMEDIATE, aluOp := .ADD, loadIp := true,
      nextInstruction := true, next := 0xea },
    { bSel := .IMMEDIATE, aluOp := .SELB, loadIp := true, next := 0x25a },
    { aSel := .IP, bSel := .IMMEDIATE, aluOp := .ADD, loadIp := true,
      nextInstruction := true, next := 0xec },
    { raSel := DX, next := 0x225 },
    { raSel := DX, next := 0x225 },
    { width := .W8, raSel := AL, next := 0x21f },
    { raSel := AX, next := 0x21f }
  ]

def opcodesF0 : List Microinstruction :=
  [
    { nextInstruction := true, next := 0xf1 },
    { next := 0x43a },
    { nextInstruction := true, next := 0xf3 },
    { nextInstruction := true, next := 0xf4 },
    { next := 0x1e7 },
    { aluOp := .CMC, updateFlags := [.CF], nextInstruction := true,
      next := 0xf6 },
    { width := .W8, marWrite := true, jumpType := .DISPATCH_REG,
      next := 0x473 },
    { marWrite := true, jumpType := .DISPATCH_REG, next := 0x47b },
    { bSel := .IMMEDIATE, immediate := some 0x0#16, aluOp := .SETFLAGSB,
      updateFlags := [.CF], nextInstruction := true, next := 0xf9 },
    { bSel := .IMMEDIATE, immediate := some 0xffff#16, aluOp := .SETFLAGSB,
      updateFlags := [.CF], nextInstruction := true, next := 0xfa },
    { bSel := .IMMEDIATE, immediate := some 0x0#16, aluOp := .SETFLAGSB,
      updateFlags := [.IF], extIntInhibit := true, nextInstruction := true,
      next := 0xfb },
    { bSel := .IMMEDIATE, immediate := some 0xffff#16, aluOp := .SETFLAGSB,
      updateFlags := [.IF], extIntInhibit := true, nextInstruction := true,
      next := 0xfc },
    { bSel := .IMMEDIATE, immediate := some 0x0#16, aluOp := .SETFLAGSB,
      updateFlags := [.DF], nextInstruction := true, next := 0xfd },
    { bSel := .IMMEDIATE, immediate := some 0xffff#16, aluOp := .SETFLAGSB,
      updateFlags := [.DF], nextInstruction := true, next := 0xfe },
    { width := .W8, marWrite := true, jumpType := .DISPATCH_REG,
      next := 0x1e8 },
    { marWrite := true, segment := .DS, jumpType := .DISPATCH_REG,
      next := 0x483 }
  ]

def fixed : List Microinstruction :=
  [
    { extIntYield := true, jumpType := .OPCODE, next := 0x101 },
    { bSel := .IMMEDIATE, immediate := some 0x0#16, aluOp := .SELB,
      tmpWrEn := true, next := 0x12d },
    { next := 0x102 },
    { raSel := AX, next := 0x49a },
    { raSel := CX, next := 0x49a },
    { raSel := DX, next := 0x49a },
    { raSel := BX, next := 0x49a },
    { raSel := SP, next := 0x49a },
    { raSel := BP, next := 0x49a },
    { raSel := SI, next := 0x49a },
    { raSel := DI, next := 0x49a },
    { segmentForce := true, segment := .ES, next := 0x49b },
    { segmentForce := true, segment := .CS, next := 0x49b },
    { segmentForce := true, segment := .SS, next := 0x49b },
    { segmentForce := true, segment := .DS, next := 0x49b },
    { aSel := .IP, tmpWrEn := true, next := 0x102 },
    { aluOp := .GETFLAGS, tmpWrEn := true, next := 0x102 },
    { bSel := .TEMP, aluOp := .SELB, loadIp := true, nextInstruction := true,
      extIntInhibit := true, next := 0x102 },
    { bSel := .TEMP, aluOp := .SETFLAGSB,
      updateFlags := [.CF, .PF, .AF, .ZF, .SF, .TF, .IF, .DF, .OF],
      next := 0x102 },
    { bSel := .TEMP, aluOp := .SELB, rdSelSource := .MICROCODE_RD_SEL,
      rdSel := AX, next := 0x102 },
    { bSel := .TEMP, aluOp := .SELB, rdSelSource := .MICROCODE_RD_SEL,
      rdSel := CX, next := 0x102 },
    { bSel := .TEMP, aluOp := .SELB, rdSelSource := .MICROCODE_RD_SEL,
      rdSel := DX, next := 0x102 },
    { bSel := .TEMP, aluOp := .SELB, rdSelSource := .MICROCODE_RD_SEL,
      rdSel := BX, next := 0x102 },
    { bSel := .TEMP, aluOp := .SELB, rdSelSource := .MICROCODE_RD_SEL,
      rdSel := SP, next := 0x102 },
    { bSel := .TEMP, aluOp := .SELB, rdSelSource := .MICROCODE_RD_SEL,
      rdSel := BP, next := 0x102 },
    { bSel := .TEMP, aluOp := .SELB, rdSelSource := .MICROCODE_RD_SEL,
      rdSel := SI, next := 0x102 },
    { bSel := .TEMP, aluOp := .SELB, rdSelSource := .MICROCODE_RD_SEL,
      rdSel := DI, next := 0x102 },
    { bSel := .TEMP, aluOp := .SELB, segmentForce := true,
      segmentWrEn := true, segment := .ES, nextInstruction := true,
      extIntInhibit := true, next := 0x102 },
    { bSel := .TEMP, aluOp := .SELB, segmentForce := true,
      segmentWrEn := true, segment := .CS, nextInstruction := true,
      extIntInhibit := true, next := 0x102 },
    { bSel := .TEMP, aluOp := .SELB, segmentForce := true,
      segmentWrEn := true, segment := .SS, nextInstruction := true,
      extIntInhibit := true, next := 0x102 },
    { bSel := .TEMP, aluOp := .SELB, segmentForce := true,
      segmentWrEn := true, segment := .DS, nextInstruction := true,
      extIntInhibit := true, next := 0x102 },
    { bSel := .TEMP, aluOp := .SELB, marWrSel := .Q, marWrite := true,
      next := 0x102 },
    { bSel := .TEMP, aluOp := .SELB, mdrWrite := true, next := 0x102 },
    { segmentForce := true, segment := .DS, next := 0x49c },
    { segmentForce := true, segment := .DS, next := 0x49f },
    { segmentForce := true, segment := .DS, next := 0x4a2 },
    { segmentForce := true, segment := .DS, next := 0x4a4 },
    { segmentForce := true, segment := .DS, next := 0x4a6 },
    { segmentForce := true, segment := .DS, next := 0x4a8 },
    { segmentForce := true, segment := .DS, next := 0x4aa },
    { segmentForce := true, segment := .DS, next := 0x4ab },
    { next := 0x48b },
    { bSel := .IMMEDIATE, immediate := some 0x8#16, aluOp := .SELB,
      tmpWrEn := true, next := 0x12d },
    { aSel := .MDR, bSel := .IMMEDIATE, immediate := some 0x4#16,
      aluOp := .MUL, tmpWrEn := true, next := 0x12d },
    { bSel := .IMMEDIATE, immediate := some 0x4#16, aluOp := .SELB,
      tmpWrEn := true, next := 0x12d },
    { aluOp := .GETFLAGS, mdrWrite := true, raSel := SP, next := 0x20b },
    { jumpType := .OPCODE, next := 0x12f },
    { next := 0x43a }
  ]

end Microcode
end Rtl
end S80x86
