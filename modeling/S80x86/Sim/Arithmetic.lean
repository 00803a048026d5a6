import S80x86.Sim.Alu

/-!
# Arithmetic and logic instructions

Each family is one definition; its members carry the opcode the source names
them after.
-/

namespace S80x86
namespace Sim

open Foundation.Effect Flag

variable {W : Type}

def arithmeticFlags : BitVec 16 := OF ||| SF ||| ZF ||| AF ||| CF ||| PF

def logicFlags : BitVec 16 := OF ||| SF ||| ZF ||| CF ||| PF

def incDecFlags : BitVec 16 := OF ||| SF ||| ZF ||| AF ||| PF

/-- Push flags, `CS` and a return address and go to a vector. -/
@[reducible]
def interruptWith (flags : BitVec 16) (vector : Nat)
    (returnIp : EmuM W (BitVec 16)) : EmuM W Unit := do
  pushWord flags
  let cs ← get .CS
  pushWord cs
  let ip ← returnIp
  pushWord ip
  setFlags (flags &&& ~~~(IF ||| TF)) (IF ||| TF)
  let newCs ← read16 (.vector (vector + 2))
  let newIp ← read16 (.vector vector)
  set .CS newCs
  set .IP newIp
  takeJump

/-- An interrupt that returns to the next instruction. -/
@[reducible]
def interrupt (vector : Nat) : EmuM W Unit := do
  let flags ← getFlags
  interruptWith flags vector nextIp

/-- A fault, or an external interrupt: the return address is `IP` itself. -/
@[reducible]
def interruptHere (vector : Nat) : EmuM W Unit := do
  let flags ← getFlags
  interruptWith flags vector (get .IP)

namespace Vector

def DIVIDE_ERROR : Nat := 0
def SINGLE_STEP : Nat := 4
def NMI : Nat := 8
def INT : Nat := 12
def OVERFLOW : Nat := 16
def BOUND : Nat := 20
def INVALID_OPCODE : Nat := 24
def ESCAPE : Nat := 28

end Vector

@[reducible]
def invalidOpcode : EmuM W Unit := interrupt Vector.INVALID_OPCODE

/-!
## Two operands
-/

abbrev Alu (W : Type) (w : OperandWidth) :=
  BitVec w.bits -> BitVec w.bits -> EmuM W (BitVec 16 × BitVec w.bits)

@[reducible]
def carryFlag : EmuM W Bool := do
  let flags ← getFlags
  return flags &&& CF != 0#16

@[reducible]
def aluAdd (w : OperandWidth) : Alu W w := fun v1 v2 =>
  doAdd w (v1.setWidth 16) (v2.setWidth 16) false

@[reducible]
def aluAdc (w : OperandWidth) : Alu W w := fun v1 v2 => do
  let carryIn ← carryFlag
  doAdd w (v1.setWidth 16) (v2.setWidth 16) carryIn

@[reducible]
def aluSub (w : OperandWidth) : Alu W w := fun v1 v2 =>
  doSub w (v1.setWidth 16) (v2.setWidth 16) false

@[reducible]
def aluSbb (w : OperandWidth) : Alu W w := fun v1 v2 => do
  let carryIn ← carryFlag
  doSub w (v1.setWidth 16) (v2.setWidth 16) carryIn

/-- A logic operation leaves carry and overflow clear. -/
@[reducible]
def clearCarry (w : OperandWidth) (m : EmuM W (BitVec 16 × BitVec w.bits)) :
    EmuM W (BitVec 16 × BitVec w.bits) := do
  let out ← m
  return (out.1 &&& ~~~(CF ||| OF), out.2)

@[reducible]
def aluXor (w : OperandWidth) : Alu W w := fun v1 v2 =>
  clearCarry w (doXor w (v1.setWidth 16) (v2.setWidth 16))

@[reducible]
def aluOr (w : OperandWidth) : Alu W w := fun v1 v2 =>
  clearCarry w (doOr w (v1.setWidth 16) (v2.setWidth 16))

@[reducible]
def aluAnd (w : OperandWidth) : Alu W w := fun v1 v2 =>
  clearCarry w (doAnd w (v1.setWidth 16) (v2.setWidth 16))

/-- Operands r/m and register; the result, if any, goes to r/m. -/
@[reducible]
def aluRmReg (w : OperandWidth) (alu : Alu W w) (mask : BitVec 16)
    (store : Bool) : EmuM W Unit := do
  setWidth w
  decode
  let v1 ← readData w false
  let r ← reg
  let v2 ← get r
  let out ← alu v1 (v2.setWidth w.bits)
  setFlags out.1 mask
  if store then writeData w out.2 false

/-- Operands r/m and register; the result, if any, goes to the register. -/
@[reducible]
def aluRegRm (w : OperandWidth) (alu : Alu W w) (mask : BitVec 16)
    (store : Bool) : EmuM W Unit := do
  setWidth w
  decode
  let v1 ← readData w false
  let r ← reg
  let v2 ← get r
  let out ← alu v1 (v2.setWidth w.bits)
  setFlags out.1 mask
  if store then
    let dest ← reg
    set dest (out.2.setWidth 16)

def accumulator : OperandWidth -> GPR
  | .OP_WIDTH_8 => .AL
  | .OP_WIDTH_16 => .AX

/-- Operands accumulator and immediate. -/
@[reducible]
def aluAcc (w : OperandWidth) (alu : Alu W w) (mask : BitVec 16)
    (store : Bool) : EmuM W Unit := do
  let v1 ← get (accumulator w)
  let v2 ← fetch w
  let out ← alu (v1.setWidth w.bits) v2
  setFlags out.1 mask
  if store then set (accumulator w) (out.2.setWidth 16)

@[reducible]
def swapped {w : OperandWidth} (alu : Alu W w) : Alu W w :=
  fun v1 v2 => alu v2 v1

section Members

open OperandWidth

@[reducible]
def add00 : EmuM W Unit :=
  aluRmReg OP_WIDTH_8 (aluAdd _) arithmeticFlags true
@[reducible]
def add01 : EmuM W Unit :=
  aluRmReg OP_WIDTH_16 (aluAdd _) arithmeticFlags true
@[reducible]
def add02 : EmuM W Unit :=
  aluRegRm OP_WIDTH_8 (aluAdd _) arithmeticFlags true
@[reducible]
def add03 : EmuM W Unit :=
  aluRegRm OP_WIDTH_16 (aluAdd _) arithmeticFlags true
@[reducible]
def add04 : EmuM W Unit := aluAcc OP_WIDTH_8 (aluAdd _) arithmeticFlags true
@[reducible]
def add05 : EmuM W Unit :=
  aluAcc OP_WIDTH_16 (aluAdd _) arithmeticFlags true

@[reducible]
def or08 : EmuM W Unit := aluRmReg OP_WIDTH_8 (aluOr _) logicFlags true
@[reducible]
def or09 : EmuM W Unit := aluRmReg OP_WIDTH_16 (aluOr _) logicFlags true
@[reducible]
def or0a : EmuM W Unit := aluRegRm OP_WIDTH_8 (aluOr _) logicFlags true
@[reducible]
def or0b : EmuM W Unit := aluRegRm OP_WIDTH_16 (aluOr _) logicFlags true
@[reducible]
def or0c : EmuM W Unit := aluAcc OP_WIDTH_8 (aluOr _) logicFlags true
@[reducible]
def or0d : EmuM W Unit := aluAcc OP_WIDTH_16 (aluOr _) logicFlags true

@[reducible]
def adc10 : EmuM W Unit :=
  aluRmReg OP_WIDTH_8 (aluAdc _) arithmeticFlags true
@[reducible]
def adc11 : EmuM W Unit :=
  aluRmReg OP_WIDTH_16 (aluAdc _) arithmeticFlags true
@[reducible]
def adc12 : EmuM W Unit :=
  aluRegRm OP_WIDTH_8 (aluAdc _) arithmeticFlags true
@[reducible]
def adc13 : EmuM W Unit :=
  aluRegRm OP_WIDTH_16 (aluAdc _) arithmeticFlags true
@[reducible]
def adc14 : EmuM W Unit := aluAcc OP_WIDTH_8 (aluAdc _) arithmeticFlags true
@[reducible]
def adc15 : EmuM W Unit :=
  aluAcc OP_WIDTH_16 (aluAdc _) arithmeticFlags true

@[reducible]
def sbb18 : EmuM W Unit :=
  aluRmReg OP_WIDTH_8 (aluSbb _) arithmeticFlags true
@[reducible]
def sbb19 : EmuM W Unit :=
  aluRmReg OP_WIDTH_16 (aluSbb _) arithmeticFlags true
@[reducible]
def sbb1a : EmuM W Unit :=
  aluRegRm OP_WIDTH_8 (swapped (aluSbb _)) arithmeticFlags true
@[reducible]
def sbb1b : EmuM W Unit :=
  aluRegRm OP_WIDTH_16 (swapped (aluSbb _)) arithmeticFlags true
@[reducible]
def sbb1c : EmuM W Unit := aluAcc OP_WIDTH_8 (aluSbb _) arithmeticFlags true
@[reducible]
def sbb1d : EmuM W Unit :=
  aluAcc OP_WIDTH_16 (aluSbb _) arithmeticFlags true

@[reducible]
def and20 : EmuM W Unit := aluRmReg OP_WIDTH_8 (aluAnd _) logicFlags true
@[reducible]
def and21 : EmuM W Unit := aluRmReg OP_WIDTH_16 (aluAnd _) logicFlags true
@[reducible]
def and22 : EmuM W Unit := aluRegRm OP_WIDTH_8 (aluAnd _) logicFlags true
@[reducible]
def and23 : EmuM W Unit := aluRegRm OP_WIDTH_16 (aluAnd _) logicFlags true
@[reducible]
def and24 : EmuM W Unit := aluAcc OP_WIDTH_8 (aluAnd _) logicFlags true
@[reducible]
def and25 : EmuM W Unit := aluAcc OP_WIDTH_16 (aluAnd _) logicFlags true

@[reducible]
def sub28 : EmuM W Unit :=
  aluRmReg OP_WIDTH_8 (aluSub _) arithmeticFlags true
@[reducible]
def sub29 : EmuM W Unit :=
  aluRmReg OP_WIDTH_16 (aluSub _) arithmeticFlags true
@[reducible]
def sub2a : EmuM W Unit :=
  aluRegRm OP_WIDTH_8 (swapped (aluSub _)) arithmeticFlags true
@[reducible]
def sub2b : EmuM W Unit :=
  aluRegRm OP_WIDTH_16 (swapped (aluSub _)) arithmeticFlags true
@[reducible]
def sub2c : EmuM W Unit := aluAcc OP_WIDTH_8 (aluSub _) arithmeticFlags true
@[reducible]
def sub2d : EmuM W Unit :=
  aluAcc OP_WIDTH_16 (aluSub _) arithmeticFlags true

@[reducible]
def xor30 : EmuM W Unit := aluRmReg OP_WIDTH_8 (aluXor _) logicFlags true
@[reducible]
def xor31 : EmuM W Unit := aluRmReg OP_WIDTH_16 (aluXor _) logicFlags true
@[reducible]
def xor32 : EmuM W Unit := aluRegRm OP_WIDTH_8 (aluXor _) logicFlags true
@[reducible]
def xor33 : EmuM W Unit := aluRegRm OP_WIDTH_16 (aluXor _) logicFlags true
@[reducible]
def xor34 : EmuM W Unit := aluAcc OP_WIDTH_8 (aluXor _) logicFlags true
@[reducible]
def xor35 : EmuM W Unit := aluAcc OP_WIDTH_16 (aluXor _) logicFlags true

@[reducible]
def cmp38 : EmuM W Unit :=
  aluRmReg OP_WIDTH_8 (aluSub _) arithmeticFlags false
@[reducible]
def cmp39 : EmuM W Unit :=
  aluRmReg OP_WIDTH_16 (aluSub _) arithmeticFlags false
@[reducible]
def cmp3a : EmuM W Unit :=
  aluRegRm OP_WIDTH_8 (swapped (aluSub _)) arithmeticFlags false
@[reducible]
def cmp3b : EmuM W Unit :=
  aluRegRm OP_WIDTH_16 (swapped (aluSub _)) arithmeticFlags false
@[reducible]
def cmp3c : EmuM W Unit :=
  aluAcc OP_WIDTH_8 (aluSub _) arithmeticFlags false
@[reducible]
def cmp3d : EmuM W Unit :=
  aluAcc OP_WIDTH_16 (aluSub _) arithmeticFlags false

@[reducible]
def test84 : EmuM W Unit := aluRmReg OP_WIDTH_8 (aluAnd _) logicFlags false
@[reducible]
def test85 : EmuM W Unit := aluRmReg OP_WIDTH_16 (aluAnd _) logicFlags false
@[reducible]
def testa8 : EmuM W Unit := aluAcc OP_WIDTH_8 (aluAnd _) logicFlags false
@[reducible]
def testa9 : EmuM W Unit := aluAcc OP_WIDTH_16 (aluAnd _) logicFlags false

end Members

/-- The group of opcodes 80 to 83: the ModRM byte selects the operation. -/
@[reducible]
def aluGroup (w : OperandWidth) (immediate : EmuM W (BitVec w.bits)) :
    EmuM W Unit := do
  setWidth w
  decode
  let v1 ← readData w false
  let v2 ← immediate
  let r ← rawReg
  let out ← (
    if r = 0#3 then aluAdd w v1 v2
    else if r = 2#3 then aluAdc w v1 v2
    else if r = 6#3 then aluXor w v1 v2
    else if r = 1#3 then aluOr w v1 v2
    else if r = 4#3 then aluAnd w v1 v2
    else if r = 3#3 then aluSbb w v1 v2
    else aluSub w v1 v2)
  setFlags out.1
    (if r = 6#3 ∨ r = 1#3 ∨ r = 4#3 then arithmeticFlags &&& ~~~AF
    else arithmeticFlags)
  if r ≠ 7#3 then writeData w out.2 false

@[reducible]
def addAdcSubSbbCmpXorOrAnd80 : EmuM W Unit :=
  aluGroup .OP_WIDTH_8 (fetch .OP_WIDTH_8)

@[reducible]
def addAdcSubSbbCmp82 : EmuM W Unit := addAdcSubSbbCmpXorOrAnd80

@[reducible]
def addAdcSubSbbCmpXorOrAnd81 : EmuM W Unit :=
  aluGroup .OP_WIDTH_16 (fetch .OP_WIDTH_16)

/-- A byte immediate, sign-extended. -/
@[reducible]
def fetchSigned : EmuM W (BitVec 16) := do
  let b ← fetchByte
  return b.signExtend 16

@[reducible]
def addAdcSubSbbCmp83 : EmuM W Unit := aluGroup .OP_WIDTH_16 fetchSigned

/-- `TEST` of the groups F6 and F7, where the ModRM byte is decoded already. -/
@[reducible]
def testGroup (w : OperandWidth) : EmuM W Unit := do
  let v1 ← readData w false
  let v2 ← fetch w
  let out ← aluAnd w v1 v2
  setFlags out.1 logicFlags

@[reducible]
def testf6 : EmuM W Unit := testGroup .OP_WIDTH_8

@[reducible]
def testf7 : EmuM W Unit := testGroup .OP_WIDTH_16

/-!
## One operand
-/

@[reducible]
def incDecFe : EmuM W Unit := do
  setWidth .OP_WIDTH_8
  decode
  let r ← rawReg
  if r = 7#3 then invalidOpcode
  else if r ≠ 0#3 ∧ r ≠ 1#3 then pure ()
  else
    let v ← readData .OP_WIDTH_8 false
    let out ← (
      if r = 0#3 then aluAdd .OP_WIDTH_8 v 1#8 else aluSub .OP_WIDTH_8 v 1#8)
    setFlags out.1 incDecFlags
    writeData .OP_WIDTH_8 out.2 false

@[reducible]
def incDecWord (n : BitVec 3) (alu : Alu W .OP_WIDTH_16) : EmuM W Unit := do
  let r ← rawReg
  assert (r == n)
  let v ← readData .OP_WIDTH_16 false
  let out ← alu v 1#16
  setFlags out.1 incDecFlags
  writeData .OP_WIDTH_16 out.2 false

@[reducible]
def incff : EmuM W Unit := incDecWord 0#3 (aluAdd _)

@[reducible]
def decff : EmuM W Unit := incDecWord 1#3 (aluSub _)

/-- The register number in the low bits of the opcode. -/
@[reducible]
def opcodeReg : EmuM W (BitVec 3) := do
  let opcode ← getOpcode
  return opcode.extractLsb' 0 3

@[reducible]
def incDecReg (alu : Alu W .OP_WIDTH_16) : EmuM W Unit := do
  let n ← opcodeReg
  let v ← get (.word n)
  let out ← alu v 1#16
  setFlags out.1 incDecFlags
  set (.word n) out.2

@[reducible]
def inc40_47 : EmuM W Unit := incDecReg (aluAdd _)

@[reducible]
def dec48_4f : EmuM W Unit := incDecReg (aluSub _)

@[reducible]
def neg (w : OperandWidth) : EmuM W Unit := do
  let v ← readData w false
  let out ← aluSub w 0 v
  writeData w out.2 false
  setFlags (setIf (v != 0) CF (out.1 &&& ~~~CF)) arithmeticFlags

@[reducible]
def negf6 : EmuM W Unit := neg .OP_WIDTH_8

@[reducible]
def negf7 : EmuM W Unit := neg .OP_WIDTH_16

@[reducible]
def not (w : OperandWidth) : EmuM W Unit := do
  let v ← readData w false
  writeData w (~~~v) false

@[reducible]
def notf6 : EmuM W Unit := not .OP_WIDTH_8

@[reducible]
def notf7 : EmuM W Unit := not .OP_WIDTH_16

/-!
## Multiplication and division
-/

def mulFlags : BitVec 16 := OF ||| CF ||| ZF

/-- The flags of a product whose upper half is `high`. -/
def productFlags (flags : BitVec 16) (high : Bool) : BitVec 16 :=
  setIf high (CF ||| OF) (flags &&& ~~~(CF ||| OF ||| ZF))

@[reducible]
def mulf6 : EmuM W Unit := do
  let v1 ← readData .OP_WIDTH_8 false
  let v2 ← get .AL
  let out ← doMul .uint16_t (v1.setWidth 32) (v2.setWidth 32)
  set .AX out.2
  setFlags (productFlags out.1 (out.2 &&& 0xff00#16 != 0#16)) mulFlags

/-- A double-word product in `DX:AX`. -/
@[reducible]
def setDxAx (result : BitVec 32) : EmuM W Unit := do
  set .AX (result.setWidth 16)
  set .DX ((result >>> 16).setWidth 16)

@[reducible]
def mulf7 : EmuM W Unit := do
  let v1 ← readData .OP_WIDTH_16 false
  let v2 ← get .AX
  let out ← doMul .uint32_t (v1.setWidth 32) (v2.setWidth 32)
  setDxAx out.2
  setFlags (productFlags out.1 (out.2 &&& 0xffff0000#32 != 0#32)) mulFlags

@[reducible]
def imulf6 : EmuM W Unit := do
  let oldFlags ← getFlags
  let v1 ← readData .OP_WIDTH_8 false
  let v2 ← get .AL
  let out ← doMul .int16_t (v1.signExtend 32) ((v2.setWidth 8).signExtend 32)
  set .AX out.2
  setFlags (productFlags oldFlags (out.2 &&& 0xff00#16 != 0#16)) mulFlags

@[reducible]
def imulf7 : EmuM W Unit := do
  let oldFlags ← getFlags
  let v1 ← readData .OP_WIDTH_16 false
  let v2 ← get .AX
  let out ← doMul .int32_t (v1.signExtend 32) (v2.signExtend 32)
  setDxAx out.2
  setFlags (productFlags oldFlags (out.2 &&& 0xffff0000#32 != 0#32)) mulFlags

/-- The product of r/m and an immediate goes to the register. -/
@[reducible]
def imulImmediate (immediate : EmuM W (BitVec 16)) : EmuM W Unit := do
  setWidth .OP_WIDTH_16
  decode
  let oldFlags ← getFlags
  let v1 ← readData .OP_WIDTH_16 false
  let v2 ← immediate
  let out ← doMul .int32_t (v1.signExtend 32) (v2.signExtend 32)
  let dest ← reg
  set dest (out.2.setWidth 16)
  setFlags (productFlags oldFlags (out.2 &&& 0xffff0000#32 != 0#32)) mulFlags

@[reducible]
def imul69 : EmuM W Unit := imulImmediate fetch16bit

@[reducible]
def imul6b : EmuM W Unit := imulImmediate fetchSigned

@[reducible]
def divideError : EmuM W Unit := interruptHere Vector.DIVIDE_ERROR

@[reducible]
def divf6 : EmuM W Unit := do
  let divisor ← readData .OP_WIDTH_8 false
  let dividend ← get .AX
  if divisor = 0#8 ∨ 256 ≤ dividend.toNat / divisor.toNat then divideError
  else
    set .AH (BitVec.ofNat 16 (dividend.toNat % divisor.toNat))
    set .AL (BitVec.ofNat 16 (dividend.toNat / divisor.toNat))

/-- The double word in `DX:AX`. -/
@[reducible]
def getDxAx : EmuM W (BitVec 32) := do
  let dx ← get .DX
  let ax ← get .AX
  return dx.setWidth 32 <<< 16 ||| ax.setWidth 32

@[reducible]
def divf7 : EmuM W Unit := do
  let divisor ← readData .OP_WIDTH_16 false
  let dividend ← getDxAx
  if divisor = 0#16 ∨ 65536 ≤ dividend.toNat / divisor.toNat then divideError
  else
    set .DX (BitVec.ofNat 16 (dividend.toNat % divisor.toNat))
    set .AX (BitVec.ofNat 16 (dividend.toNat / divisor.toNat))

@[reducible]
def idivf6 : EmuM W Unit := do
  let divisor ← readData .OP_WIDTH_8 false
  let dividend ← get .AX
  let quotient := dividend.toInt.tdiv divisor.toInt
  if divisor = 0#8 ∨ quotient < -128 ∨ quotient > 127 then divideError
  else
    set .AH (BitVec.ofInt 16 (dividend.toInt.tmod divisor.toInt))
    set .AL (BitVec.ofInt 16 quotient)

/-- The host division of the least `int` by -1 has no result. -/
@[reducible]
def idivf7 : EmuM W Unit := do
  let divisor ← readData .OP_WIDTH_16 false
  let dividend ← getDxAx
  let quotient := dividend.toInt.tdiv divisor.toInt
  if divisor = 0#16 then divideError
  else if dividend = 0x80000000#32 ∧ divisor = 0xffff#16 then
    fault .undefinedDivision
  else if quotient < -32768 ∨ quotient > 32767 then divideError
  else
    set .DX (BitVec.ofInt 16 (dividend.toInt.tmod divisor.toInt))
    set .AX (BitVec.ofInt 16 quotient)

@[reducible]
def cbw98 : EmuM W Unit := do
  let al ← get .AL
  set .AX ((al.setWidth 8).signExtend 16)

@[reducible]
def cwd99 : EmuM W Unit := do
  let ax ← get .AX
  set .DX ((ax.signExtend 32 >>> 16).setWidth 16)

/-!
## Groups F6 and F7
-/

@[reducible]
def negMulNotTestDivF6 : EmuM W Unit := do
  setWidth .OP_WIDTH_8
  decode
  let r ← rawReg
  if r = 2#3 then notf6
  else if r = 3#3 then negf6
  else if r = 4#3 then mulf6
  else if r = 5#3 then imulf6
  else if r = 0#3 ∨ r = 1#3 then testf6
  else if r = 6#3 then divf6
  else idivf6

@[reducible]
def negMulNotTestDivF7 : EmuM W Unit := do
  setWidth .OP_WIDTH_16
  decode
  let r ← rawReg
  if r = 2#3 then notf7
  else if r = 3#3 then negf7
  else if r = 4#3 then mulf7
  else if r = 5#3 then imulf7
  else if r = 0#3 ∨ r = 1#3 then testf7
  else if r = 6#3 then divf7
  else idivf7

/-!
## Decimal adjustment
-/

/-- `(al & 0x0f) > 9 || (flags & AF)`. -/
def needsAdjust (al flags : BitVec 16) : Bool :=
  decide (9#16 < al &&& 0x0f#16) || flags &&& AF != 0#16

@[reducible]
def aaa37 : EmuM W Unit := do
  let flags ← getFlags
  let al ← get .AL
  if needsAdjust al flags then
    set .AL ((al + 6#16) &&& 0x0f#16)
    let ah ← get .AH
    set .AH (ah + 1#16)
    setFlags (flags ||| AF ||| CF) (AF ||| CF)
  else setFlags (flags &&& ~~~(AF ||| CF)) (AF ||| CF)

@[reducible]
def aas3f : EmuM W Unit := do
  let flags ← getFlags
  let al ← get .AL
  let ah ← get .AH
  let adjust := needsAdjust al flags
  set .AL (if adjust then (al - 6#16) &&& 0xf#16 else al)
  set .AH (if adjust then ah - 1#16 else ah)
  setFlags
    (if adjust then flags ||| AF ||| CF else flags &&& ~~~(AF ||| CF))
    (AF ||| CF)

/-- The low nibble's adjustment by `tmp`, in the flags and in `al`. -/
def adjustLow (adjust : Bool) (tmp flags al : BitVec 16) :
    BitVec 16 × BitVec 16 :=
  if adjust then
    (setIf (tmp &&& 0xff00#16 != 0#16) CF (flags ||| AF), tmp &&& 0xff#16)
  else (flags &&& ~~~AF, al)

@[reducible]
def daa27 : EmuM W Unit := do
  let flags ← getFlags
  let al ← get .AL
  let low := adjustLow (needsAdjust al flags) (al + 6#16) flags al
  let high := decide (0x9f#16 < low.2) || low.1 &&& CF != 0#16
  set .AL (if high then low.2 + 0x60#16 else low.2)
  setFlags (if high then low.1 ||| CF else low.1)
    (SF ||| ZF ||| AF ||| CF ||| PF)

@[reducible]
def das2f : EmuM W Unit := do
  let flags ← getFlags
  let al ← get .AL
  let ah ← get .AH
  let low := adjustLow (needsAdjust al flags) (al - 6#16) flags al
  let high := decide (0x9f#16 < low.2) || low.1 &&& CF != 0#16
  let al := if high then low.2 - 0x60#16 else low.2
  let flags := if high then low.1 ||| CF else low.1 &&& ~~~CF
  let flags := setIf (al &&& 0x80#16 != 0#16) SF flags
  let flags := setIf (al == 0#16) ZF flags
  let flags := setIf (!builtinParity (al.setWidth 32)) PF flags
  set .AL al
  set .AH ah
  setFlags flags (SF ||| ZF ||| AF ||| CF ||| PF)

@[reducible]
def aamd4 : EmuM W Unit := do
  let divisor ← fetchByte
  if divisor = 0#8 then divideError
  else
    let al ← get .AL
    set .AH (BitVec.ofNat 16 (al.toNat / divisor.toNat))
    set .AL (BitVec.ofNat 16 (al.toNat % divisor.toNat))
    let flags ← getFlags
    let ax ← get .AX
    let al ← get .AL
    let flags := flags &&& ~~~(PF ||| SF ||| ZF)
    let flags := setIf (ax == 0#16) ZF flags
    let flags := setIf (!parityOf al) PF flags
    let flags := setIf (ax &&& 0x8000#16 != 0#16) SF flags
    setFlags flags (SF ||| ZF ||| PF)

@[reducible]
def aadd5 : EmuM W Unit := do
  let flags ← getFlags
  let al ← get .AL
  let ah ← get .AH
  let b ← fetchByte
  let v := al + ah * b.setWidth 16
  let flags := setIf (v &&& 0x8000#16 != 0#16) SF flags
  let flags := setIf (v == 0#16) ZF flags
  let flags := setIf (!parityOf v) PF flags
  set .AL v
  set .AH 0#16
  setFlags flags (SF ||| ZF ||| PF)

end Sim
end S80x86
