import S80x86.Sim.State

/-!
# The ModRM decoder of the emulator

The decoder object and the operand accesses built on it.  Its width, ModRM
byte and cached address stay behind from one instruction to the next.
-/

namespace S80x86
namespace Sim

open Foundation.Effect

inductive OperandType where
  | OP_REG
  | OP_MEM
  deriving DecidableEq, Repr

namespace ModRMDecoder

def mod (d : ModRMDecoder) : BitVec 2 := d.modrm.extractLsb' 6 2

abbrev rawReg (d : ModRMDecoder) : BitVec 3 := d.modrm.extractLsb' 3 3

def rm (d : ModRMDecoder) : BitVec 3 := d.modrm.extractLsb' 0 3

abbrev rmType (d : ModRMDecoder) : OperandType :=
  if d.modrm &&& 0xc0#8 = 0xc0#8 then .OP_REG else .OP_MEM

def gpr (width : OperandWidth) (n : BitVec 3) : GPR :=
  match width with
  | .OP_WIDTH_8 => .byte n
  | .OP_WIDTH_16 => .word n

abbrev reg (d : ModRMDecoder) : GPR := gpr d.width d.rawReg

abbrev rmReg (d : ModRMDecoder) : GPR := gpr d.width d.rm

def usesBpAsBase (d : ModRMDecoder) : Bool :=
  if !d.isDecoded then false
  else if d.rmType != .OP_MEM then false
  else if d.mod = 0#2 then d.rm == 2#3 || d.rm == 3#3
  else d.rm == 2#3 || d.rm == 3#3 || d.rm == 6#3

end ModRMDecoder

variable {W : Type}

/-- A getter of the decoder that asserts that a ModRM byte was decoded. -/
def decoded (f : ModRMDecoder -> α) : EmuM W α := fun _ e =>
  if e.modrmDecoder.isDecoded then ([], .ok (f e.modrmDecoder, e))
  else ([], .error .assertion)

def setWidth (width : OperandWidth) : EmuM W Unit :=
  modify fun e =>
    { e with modrmDecoder := { e.modrmDecoder with width := width } }

@[reducible]
def rmType : EmuM W OperandType := decoded fun d => d.rmType

@[reducible]
def rawReg : EmuM W (BitVec 3) := decoded fun d => d.rawReg

@[reducible]
def reg : EmuM W GPR := decoded fun d => d.reg

@[reducible]
def rmReg : EmuM W GPR := do
  let type ← rmType
  assert (type == .OP_REG)
  decoded fun d => d.rmReg

/-- The sum of registers an addressing mode starts from. -/
@[reducible]
def baseIndex (rm : BitVec 3) : EmuM W (BitVec 16) := do
  let bx ← get .BX
  let bp ← get .BP
  let si ← get .SI
  let di ← get .DI
  return match rm.toFin with
    | 0 => bx + si
    | 1 => bx + di
    | 2 => bp + si
    | 3 => bp + di
    | 4 => si
    | 5 => di
    | 6 => bp
    | 7 => bx

@[reducible]
def mod00 : EmuM W (BitVec 16) := do
  let rm ← decoded fun d => d.rm
  if rm = 6#3 then fetch16bit else baseIndex rm

@[reducible]
def mod01 : EmuM W (BitVec 16) := do
  let displacement ← fetchByte
  let rm ← decoded fun d => d.rm
  let base ← baseIndex rm
  return base + displacement.signExtend 16

@[reducible]
def mod10 : EmuM W (BitVec 16) := do
  let displacement ← fetch16bit
  let rm ← decoded fun d => d.rm
  let base ← baseIndex rm
  return base + displacement

@[reducible]
def calculateEffectiveAddress : EmuM W (BitVec 16) := do
  let type ← rmType
  assert (type == .OP_MEM)
  let mod ← decoded fun d => d.mod
  if mod = 0#2 then mod00
  else if mod = 1#2 then mod01
  else mod10

def cacheAddress (address : BitVec 16) : EmuM W Unit :=
  modify fun e =>
    { e with
      modrmDecoder :=
        { e.modrmDecoder with
          cachedAddress := address, addrIsCached := true } }

/-- The cached address, which is read only when there is one. -/
@[reducible]
def getCachedAddress : EmuM W (Option (BitVec 16)) :=
  decoded fun d => if d.addrIsCached then some d.cachedAddress else none

def effectiveAddress : EmuM W (BitVec 16) := do
  match ← getCachedAddress with
  | some address => return address
  | none =>
      let address ← calculateEffectiveAddress
      cacheAddress address
      return address

/-- Record a new ModRM byte; nothing is cached for it yet. -/
def setModrm (b : BitVec 8) : EmuM W Unit :=
  modify fun e =>
    { e with
      modrmDecoder :=
        { e.modrmDecoder with
          isDecoded := true, modrm := b, addrIsCached := false } }

@[reducible]
def decode : EmuM W Unit := do
  let b ← fetchByte
  setModrm b
  let type ← rmType
  if type = .OP_MEM then
    let _ ← effectiveAddress

def usesBpAsBase : EmuM W Bool := gets fun e => e.modrmDecoder.usesBpAsBase

/-!
## Segments
-/

def setOverrideSegment (segment : GPR) : EmuM W Unit :=
  modify fun e =>
    { e with defaultSegmentOverriden := true, overrideSegment := segment }

/-- The override prefix in force. -/
def getOverride : EmuM W (Option GPR) :=
  gets fun e =>
    if e.defaultSegmentOverriden then some e.overrideSegment else none

def getSegment (isStackReference : Bool) : EmuM W GPR := do
  if isStackReference then return .SS
  match ← getOverride with
  | some segment => return segment
  | none =>
      let bp ← usesBpAsBase
      return if bp || isStackReference then .SS else .DS

/-!
## Operands
-/

/-- The address of the memory operand. -/
@[reducible]
def operandAddr (stack : Bool) : EmuM W PhysAddr := do
  let ea ← effectiveAddress
  let segment ← getSegment stack
  let base ← get segment
  return getPhysAddr base ea.toNat

@[reducible]
def writeData (w : OperandWidth) (val : BitVec w.bits) (stack : Bool) :
    EmuM W Unit := do
  let type ← rmType
  if type = .OP_REG then
    let dest ← rmReg
    set dest (val.setWidth 16)
  else
    let addr ← operandAddr stack
    writeMem w addr val

@[reducible]
def readData (w : OperandWidth) (stack : Bool) : EmuM W (BitVec w.bits) := do
  let type ← rmType
  if type = .OP_MEM then
    let addr ← operandAddr stack
    readMem w addr
  else
    let source ← rmReg
    let v ← get source
    return v.setWidth w.bits

/-- `read_data` of a far pointer. -/
@[reducible]
def readData32 (stack : Bool) : EmuM W (BitVec 32) := do
  let type ← rmType
  if type = .OP_MEM then
    let addr ← operandAddr stack
    read32 addr
  else
    let source ← rmReg
    let v ← get source
    return v.setWidth 32

end Sim
end S80x86
