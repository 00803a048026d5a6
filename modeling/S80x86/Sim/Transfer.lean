import S80x86.Sim.Arithmetic

/-!
# Data transfer and stack instructions
-/

namespace S80x86
namespace Sim

open Foundation.Effect Flag

variable {W : Type}

/-!
## Moves
-/

@[reducible]
def movRmReg (w : OperandWidth) : EmuM W Unit := do
  setWidth w
  decode
  let source ← reg
  let val ← get source
  writeData w (val.setWidth w.bits) false

@[reducible]
def mov88 : EmuM W Unit := movRmReg .OP_WIDTH_8

@[reducible]
def mov89 : EmuM W Unit := movRmReg .OP_WIDTH_16

@[reducible]
def movRegRm (w : OperandWidth) : EmuM W Unit := do
  setWidth w
  decode
  let val ← readData w false
  let dest ← reg
  set dest (val.setWidth 16)

@[reducible]
def mov8a : EmuM W Unit := movRegRm .OP_WIDTH_8

@[reducible]
def mov8b : EmuM W Unit := movRegRm .OP_WIDTH_16

@[reducible]
def movRmImmediate (w : OperandWidth) : EmuM W Unit := do
  setWidth w
  decode
  let r ← rawReg
  if r = 0#3 then
    let immed ← fetch w
    writeData w immed false

@[reducible]
def movc6 : EmuM W Unit := movRmImmediate .OP_WIDTH_8

@[reducible]
def movc7 : EmuM W Unit := movRmImmediate .OP_WIDTH_16

@[reducible]
def movRegImmediate (w : OperandWidth) : EmuM W Unit := do
  let immed ← fetch w
  let n ← opcodeReg
  set (ModRMDecoder.gpr w n) (immed.setWidth 16)

@[reducible]
def movb0_b7 : EmuM W Unit := movRegImmediate .OP_WIDTH_8

@[reducible]
def movb8_bf : EmuM W Unit := movRegImmediate .OP_WIDTH_16

/-- The address of a data operand that no ModRM byte selects. -/
@[reducible]
def dataAddr (displacement : Nat) : EmuM W PhysAddr := do
  let segment ← getSegment false
  let base ← get segment
  return getPhysAddr base displacement

@[reducible]
def movAccMem (w : OperandWidth) : EmuM W Unit := do
  let displacement ← fetch16bit
  let addr ← dataAddr displacement.toNat
  let val ← readMem w addr
  set (accumulator w) (val.setWidth 16)

@[reducible]
def mova0 : EmuM W Unit := movAccMem .OP_WIDTH_8

@[reducible]
def mova1 : EmuM W Unit := movAccMem .OP_WIDTH_16

@[reducible]
def movMemAcc (w : OperandWidth) : EmuM W Unit := do
  let displacement ← fetch16bit
  let val ← get (accumulator w)
  let addr ← dataAddr displacement.toNat
  writeMem w addr (val.setWidth w.bits)

@[reducible]
def mova2 : EmuM W Unit := movMemAcc .OP_WIDTH_8

@[reducible]
def mova3 : EmuM W Unit := movMemAcc .OP_WIDTH_16

/-- The segment register a ModRM byte selects. -/
@[reducible]
def rawSegment : EmuM W GPR := do
  let r ← rawReg
  return .segment (r.extractLsb' 0 2)

@[reducible]
def mov8e : EmuM W Unit := do
  setWidth .OP_WIDTH_16
  decode
  let val ← readData .OP_WIDTH_16 false
  let dest ← rawSegment
  set dest val
  inhibitExtInt

@[reducible]
def mov8c : EmuM W Unit := do
  setWidth .OP_WIDTH_16
  decode
  let source ← rawSegment
  let val ← get source
  writeData .OP_WIDTH_16 val false

/-!
## Stack
-/

/-- Write to the top of the stack. -/
@[reducible]
def storeTop (val : BitVec 16) : EmuM W Unit := do
  let ss ← get .SS
  let sp ← get .SP
  write16 (getPhysAddr ss sp.toNat) val

/-- Read the top of the stack. -/
@[reducible]
def loadTop : EmuM W (BitVec 16) := do
  let ss ← get .SS
  let sp ← get .SP
  read16 (getPhysAddr ss sp.toNat)

@[reducible]
def addSp (n : BitVec 16) : EmuM W Unit := do
  let sp ← get .SP
  set .SP (sp + n)

@[reducible]
def subSp (n : BitVec 16) : EmuM W Unit := do
  let sp ← get .SP
  set .SP (sp - n)

@[reducible]
def pushff : EmuM W Unit := do
  let r ← rawReg
  assert (r == 6#3)
  subSp 2#16
  let val ← readData .OP_WIDTH_16 false
  storeTop val

@[reducible]
def push68 : EmuM W Unit := do
  let val ← fetch16bit
  subSp 2#16
  storeTop val

@[reducible]
def push6a : EmuM W Unit := do
  let val ← fetchSigned
  subSp 2#16
  storeTop val

@[reducible]
def push50_57 : EmuM W Unit := do
  let n ← opcodeReg
  subSp 2#16
  let val ← get (.word n)
  storeTop val

/-- The segment register in bits 3 and 4 of the opcode. -/
@[reducible]
def opcodeSegment : EmuM W GPR := do
  let opcode ← getOpcode
  return .segment (opcode.extractLsb' 3 2)

@[reducible]
def pushsr : EmuM W Unit := do
  let source ← opcodeSegment
  let val ← get source
  subSp 2#16
  storeTop val

@[reducible]
def pushf9c : EmuM W Unit := do
  let val ← getFlags
  subSp 2#16
  storeTop val

@[reducible]
def pushReg (r : GPR) : EmuM W Unit := do
  let v ← get r
  pushWord v

@[reducible]
def pusha60 : EmuM W Unit := do
  let sp ← get .SP
  pushReg .AX
  pushReg .CX
  pushReg .DX
  pushReg .BX
  pushWord sp
  pushReg .BP
  pushReg .SI
  pushReg .DI

@[reducible]
def popReg (r : GPR) : EmuM W Unit := do
  let v ← popWord
  set r v

@[reducible]
def popa61 : EmuM W Unit := do
  popReg .DI
  popReg .SI
  popReg .BP
  let _ ← popWord
  popReg .BX
  popReg .DX
  popReg .CX
  popReg .AX

@[reducible]
def pop8f : EmuM W Unit := do
  setWidth .OP_WIDTH_16
  decode
  let r ← rawReg
  if r = 0#3 then
    let val ← loadTop
    addSp 2#16
    writeData .OP_WIDTH_16 val false

@[reducible]
def pop58_5f : EmuM W Unit := do
  let n ← opcodeReg
  let val ← loadTop
  addSp 2#16
  set (.word n) val

@[reducible]
def popsr : EmuM W Unit := do
  let dest ← opcodeSegment
  let val ← loadTop
  set dest val
  addSp 2#16
  inhibitExtInt

@[reducible]
def popf9d : EmuM W Unit := do
  let val ← loadTop
  setFlags val 0xffff#16
  addSp 2#16

@[reducible]
def leavec9 : EmuM W Unit := do
  let bp ← get .BP
  set .SP bp
  popReg .BP

/-- Copy the display of the enclosing frames. -/
def enterLoop : Nat -> EmuM W Unit
  | 0 => pure ()
  | n + 1 => do
      let bp ← get .BP
      set .BP (bp - 2#16)
      let ss ← get .SS
      let bp ← get .BP
      let v ← read16 (getPhysAddr ss bp.toNat)
      pushWord v
      enterLoop n

@[reducible]
def enterc8 : EmuM W Unit := do
  let size ← fetch16bit
  let b ← fetchByte
  let nest := (b &&& 0x1f#8).toNat
  pushReg .BP
  let frameTemp ← get .SP
  enterLoop (nest - 1)
  let _ ← (if nest ≠ 0 then pushWord frameTemp else pure ())
  set .BP frameTemp
  subSp size

/-!
## Exchanges, translation and pointers
-/

@[reducible]
def xchgRmReg (w : OperandWidth) : EmuM W Unit := do
  setWidth w
  decode
  let v1 ← readData w false
  let r ← reg
  let v2 ← get r
  writeData w (v2.setWidth w.bits) false
  let dest ← reg
  set dest (v1.setWidth 16)

@[reducible]
def xchg86 : EmuM W Unit := xchgRmReg .OP_WIDTH_8

@[reducible]
def xchg87 : EmuM W Unit := xchgRmReg .OP_WIDTH_16

@[reducible]
def xchg90_97 : EmuM W Unit := do
  let n ← opcodeReg
  let v1 ← get .AX
  let v2 ← get (.word n)
  set .AX v2
  set (.word n) v1

@[reducible]
def xlatd7 : EmuM W Unit := do
  let v ← get .AL
  let tableAddr ← get .BX
  let addr ← dataAddr (tableAddr.toNat + v.toNat)
  let xlatedVal ← read8 addr
  set .AL (xlatedVal.setWidth 16)

@[reducible]
def lea8d : EmuM W Unit := do
  setWidth .OP_WIDTH_16
  decode
  let type ← rmType
  if type ≠ .OP_REG then
    let dest ← reg
    let ea ← effectiveAddress
    set dest ea

/-- Load a far pointer into a register and a segment register. -/
@[reducible]
def loadFar (segment : GPR) : EmuM W Unit := do
  setWidth .OP_WIDTH_16
  decode
  let type ← rmType
  if type = .OP_REG then pure ()
  else
    let p32 ← operandAddr false
    let displacement ← read16 p32
    let seg ← read16 (p32.add 2)
    let dest ← reg
    set dest displacement
    set segment seg

@[reducible]
def ldsc5 : EmuM W Unit := loadFar .DS

@[reducible]
def lesc4 : EmuM W Unit := loadFar .ES

/-!
## Ports and flags
-/

@[reducible]
def readIo : (w : OperandWidth) -> BitVec 16 -> EmuM W (BitVec w.bits)
  | .OP_WIDTH_8, port => readIo8 port
  | .OP_WIDTH_16, port => readIo16 port

@[reducible]
def writeIo : (w : OperandWidth) -> BitVec 16 -> BitVec w.bits -> EmuM W Unit
  | .OP_WIDTH_8, port, val => writeIo8 port val
  | .OP_WIDTH_16, port, val => writeIo16 port val

/-- The port number as an immediate byte. -/
@[reducible]
def immediatePort : EmuM W (BitVec 16) := do
  let portNum ← fetchByte
  return portNum.setWidth 16

@[reducible]
def inPort (w : OperandWidth) (port : EmuM W (BitVec 16)) : EmuM W Unit := do
  let portNum ← port
  let val ← readIo w portNum
  set (accumulator w) (val.setWidth 16)

@[reducible]
def ine4 : EmuM W Unit := inPort .OP_WIDTH_8 immediatePort

@[reducible]
def ine5 : EmuM W Unit := inPort .OP_WIDTH_16 immediatePort

@[reducible]
def inec : EmuM W Unit := inPort .OP_WIDTH_8 (get .DX)

@[reducible]
def ined : EmuM W Unit := inPort .OP_WIDTH_16 (get .DX)

@[reducible]
def outPort (w : OperandWidth) (port : EmuM W (BitVec 16)) :
    EmuM W Unit := do
  let portNum ← port
  let val ← get (accumulator w)
  writeIo w portNum (val.setWidth w.bits)

@[reducible]
def oute6 : EmuM W Unit := outPort .OP_WIDTH_8 immediatePort

@[reducible]
def oute7 : EmuM W Unit := outPort .OP_WIDTH_16 immediatePort

@[reducible]
def outee : EmuM W Unit := outPort .OP_WIDTH_8 (get .DX)

@[reducible]
def outef : EmuM W Unit := outPort .OP_WIDTH_16 (get .DX)

@[reducible]
def lahf9f : EmuM W Unit := do
  let flags ← getFlags
  set .AH (flags &&& 0xff#16)

@[reducible]
def sahf9e : EmuM W Unit := do
  let flags ← get .AH
  setFlags flags 0xff#16

@[reducible]
def setalcd6 : EmuM W Unit := do
  let cf ← getFlag CF
  set .AL (if cf then 0xff#16 else 0x00#16)

@[reducible]
def clearFlag (f : BitVec 16) : EmuM W Unit := do
  let flags ← getFlags
  setFlags (flags &&& ~~~f) f

@[reducible]
def raiseFlag (f : BitVec 16) : EmuM W Unit := do
  let flags ← getFlags
  setFlags (flags ||| f) f

@[reducible]
def clcf8 : EmuM W Unit := clearFlag CF

@[reducible]
def cldfc : EmuM W Unit := clearFlag DF

@[reducible]
def clifa : EmuM W Unit := clearFlag IF

@[reducible]
def stcf9 : EmuM W Unit := raiseFlag CF

@[reducible]
def stdfd : EmuM W Unit := raiseFlag DF

@[reducible]
def stifb : EmuM W Unit := do
  raiseFlag IF
  inhibitExtInt

@[reducible]
def cmcf5 : EmuM W Unit := do
  let flags ← getFlags
  setFlags (if flags &&& CF != 0#16 then flags &&& ~~~CF else flags ||| CF) CF

@[reducible]
def hltf4 : EmuM W Unit := pure ()

@[reducible]
def wait9b : EmuM W Unit := pure ()

end Sim
end S80x86
