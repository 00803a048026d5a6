import S80x86.Rtl.Alu
import S80x86.Rtl.Instruction

/-!
# Microinstructions

The fields of a word of the microcode store.  A field that a microprogram
leaves out has the first value of its type.
-/

namespace S80x86
namespace Rtl

namespace GPR

abbrev AX : BitVec 3 := 0#3
abbrev CX : BitVec 3 := 1#3
abbrev DX : BitVec 3 := 2#3
abbrev BX : BitVec 3 := 3#3
abbrev SP : BitVec 3 := 4#3
abbrev BP : BitVec 3 := 5#3
abbrev SI : BitVec 3 := 6#3
abbrev DI : BitVec 3 := 7#3
abbrev AL : BitVec 3 := 0#3
abbrev CL : BitVec 3 := 1#3
abbrev DL : BitVec 3 := 2#3
abbrev BL : BitVec 3 := 3#3
abbrev AH : BitVec 3 := 4#3
abbrev CH : BitVec 3 := 5#3
abbrev DH : BitVec 3 := 6#3
abbrev BH : BitVec 3 := 7#3

end GPR

inductive ADriver where
  | RA
  | IP
  | MAR
  | MDR
  deriving DecidableEq, Repr

inductive BDriver where
  | RB
  | IMMEDIATE
  | SR
  | TEMP
  | IMMEDIATE2
  deriving DecidableEq, Repr

inductive UpdateFlags where
  | CF
  | PF
  | AF
  | ZF
  | SF
  | TF
  | IF
  | DF
  | OF
  deriving DecidableEq, Repr

inductive RDSelSource where
  | NONE
  | MODRM_REG
  | MODRM_RM_REG
  | MICROCODE_RD_SEL
  deriving DecidableEq, Repr

inductive JumpType where
  | UNCONDITIONAL
  | RM_REG_MEM
  | OPCODE
  | DISPATCH_REG
  | HAS_NO_REP_PREFIX
  | ZERO
  | REP_NOT_COMPLETE
  | JUMP_TAKEN
  | RB_ZERO
  | LOOP_DONE
  deriving DecidableEq, Repr

inductive MARWrSel where
  | EA
  | Q
  deriving DecidableEq, Repr

inductive RegWrSource where
  | Q
  | QUOTIENT
  | REMAINDER
  deriving DecidableEq, Repr

inductive TEMPWrSel where
  | Q_LOW
  | Q_HIGH
  deriving DecidableEq, Repr

inductive WidthType where
  | W16
  | W8
  | WAUTO
  deriving DecidableEq, Repr

/-- One word of the store; the immediate is there when the microprogram gives
one, be it zero. -/
structure Microinstruction where
  next : Nat
  aSel : ADriver := .RA
  aluOp : ALUOp := .SELA
  bSel : BDriver := .RB
  extIntInhibit : Bool := false
  extIntYield : Bool := false
  immediate : Option (BitVec 16) := none
  io : Bool := false
  jumpType : JumpType := .UNCONDITIONAL
  loadIp : Bool := false
  marWrSel : MARWrSel := .EA
  marWrite : Bool := false
  mdrWrite : Bool := false
  memRead : Bool := false
  memWrite : Bool := false
  nextInstruction : Bool := false
  raModrmRmReg : Bool := false
  raSel : BitVec 3 := GPR.AX
  rbCl : Bool := false
  rdSel : BitVec 3 := GPR.AX
  rdSelSource : RDSelSource := .NONE
  regWrSource : RegWrSource := .Q
  segment : SR := .ES
  segmentForce : Bool := false
  segmentWrEn : Bool := false
  tmpWrEn : Bool := false
  tmpWrSel : TEMPWrSel := .Q_LOW
  updateFlags : List UpdateFlags := []
  width : WidthType := .W16
  deriving DecidableEq, Repr

namespace Microinstruction

/-- Whether the microinstruction works on bytes, for an opcode. -/
def is8Bit (m : Microinstruction) (opcode : BitVec 8) : Bool :=
  match m.width with
  | .W8 => true
  | .W16 => false
  | .WAUTO => !opcode.getLsbD 0

def regWrEn (m : Microinstruction) : Bool :=
  m.rdSelSource != .NONE && !m.segmentWrEn

def divide (m : Microinstruction) : Bool :=
  m.aluOp == .DIV || m.aluOp == .IDIV

end Microinstruction
end Rtl
end S80x86
