import S80x86.Sim.Memory
import S80x86.Sim.RegisterFile
import S80x86.Foundation.Effect

/-!
# The emulator's state and its primitive operations

Instructions are written over the operations of this module.  The environment
holds what does not change during a run: the addressing policy, the ports and
the interrupt acknowledge handler of the simulated board, and the build option
that makes escape instructions trap.
-/

namespace S80x86
namespace Sim

inductive RepMode where
  | REPNE
  | REPE
  deriving DecidableEq, Repr

inductive OperandWidth where
  | OP_WIDTH_8
  | OP_WIDTH_16
  deriving DecidableEq, Repr

namespace OperandWidth

abbrev bits : OperandWidth -> Nat
  | OP_WIDTH_8 => 8
  | OP_WIDTH_16 => 16

end OperandWidth

structure ModRMDecoder where
  width : OperandWidth
  modrm : BitVec 8
  cachedAddress : BitVec 16
  addrIsCached : Bool
  isDecoded : Bool
  deriving DecidableEq, Repr

/-- What stops the emulator: an assertion, a host division without a result,
or a prefix loop that never ends. -/
inductive Fault where
  | memoryAssertion (a : Access)
  | assertion
  | undefinedDivision
  | endlessPrefixes
  deriving DecidableEq, Repr

/-- What a device does to the processor: the vector it raises, if any. -/
abbrev Raised := Option (BitVec 8)

/-- A device over the state `W` of the board. -/
structure IOPorts (W : Type) where
  base : BitVec 16
  read8 : BitVec 16 -> Nat -> W -> BitVec 8 × W × Raised
  read16 : BitVec 16 -> W -> BitVec 16 × W × Raised
  write8 : BitVec 16 -> Nat -> BitVec 8 -> W -> W × Raised
  write16 : BitVec 16 -> BitVec 16 -> W -> W × Raised

structure Environment (W : Type) where
  addressing : Addressing
  io : BitVec 16 -> Option (IOPorts W)
  ackInt : BitVec 8 -> W -> W × Raised
  trapEscape : Bool

/-- The same board with another addressing policy. -/
def Environment.withAddressing {W : Type} (env : Environment W)
    (p : Addressing) : Environment W :=
  { env with addressing := p }

structure Emulator (W : Type) where
  registers : RegisterFile
  mem : Memory
  world : W
  instrLength : Nat
  modrmDecoder : ModRMDecoder
  opcode : BitVec 8
  jumpTaken : Bool
  defaultSegmentOverriden : Bool
  overrideSegment : GPR
  repMode : RepMode
  hasRepPrefix : Bool
  nmiPending : Bool
  extIntInhibit : Bool
  pendingIrq : BitVec 8
  tfWasSet : Bool

/-- Emulator code: it records the memory accesses it makes. -/
abbrev EmuM (W : Type) :=
  Foundation.Effect (Environment W) Access Fault (Emulator W)

open Foundation.Effect

variable {W : Type}

@[reducible]
def assert (c : Bool) : EmuM W Unit :=
  if c then pure () else fault .assertion

/-!
## Registers and flags
-/

def get (r : GPR) : EmuM W (BitVec 16) := gets fun e => e.registers.get r

def set (r : GPR) (value : BitVec 16) : EmuM W Unit :=
  modify fun e => { e with registers := e.registers.set r value }

def getFlags : EmuM W (BitVec 16) := gets fun e => e.registers.getFlags

def getFlag (f : BitVec 16) : EmuM W Bool :=
  gets fun e => e.registers.getFlag f

def setFlags (val mask : BitVec 16) : EmuM W Unit :=
  modify fun e => { e with registers := e.registers.setFlags val mask }

/-!
## Memory
-/

/-- The addresses an access touches; the assertion of `Memory` is here. -/
def resolve (a : Access) : EmuM W (List (BitVec 20)) := fun r e =>
  match r.addressing a with
  | some f => ([a], .ok (f, e))
  | none => ([a], .error (.memoryAssertion a))

def loadByte (addr : BitVec 20) : EmuM W (BitVec 8) :=
  gets fun e => e.mem.read addr

def storeByte (addr : BitVec 20) (val : BitVec 8) : EmuM W Unit :=
  modify fun e => { e with mem := e.mem.write addr val }

@[reducible]
def read8 (p : PhysAddr) : EmuM W (BitVec 8) := do
  let f ← resolve { addr := p, type := .uint8_t, write := false }
  loadByte (f.getD 0 0#20)

/-- The read of an instruction byte. -/
@[reducible]
def readCode (p : PhysAddr) : EmuM W (BitVec 8) := do
  let f ← resolve
    { addr := p, type := .uint8_t, write := false, code := true }
  loadByte (f.getD 0 0#20)

@[reducible]
def read16 (p : PhysAddr) : EmuM W (BitVec 16) := do
  let f ← resolve { addr := p, type := .uint16_t, write := false }
  let low ← loadByte (f.getD 0 0#20)
  let high ← loadByte (f.getD 1 0#20)
  return high.setWidth 16 <<< 8 ||| low.setWidth 16

@[reducible]
def read32 (p : PhysAddr) : EmuM W (BitVec 32) := do
  let f ← resolve { addr := p, type := .uint32_t, write := false }
  let b0 ← loadByte (f.getD 0 0#20)
  let b1 ← loadByte (f.getD 1 0#20)
  let b2 ← loadByte (f.getD 2 0#20)
  let b3 ← loadByte (f.getD 3 0#20)
  return b3.setWidth 32 <<< 24 ||| b2.setWidth 32 <<< 16 |||
    b1.setWidth 32 <<< 8 ||| b0.setWidth 32

@[reducible]
def write8 (p : PhysAddr) (val : BitVec 8) : EmuM W Unit := do
  let f ← resolve { addr := p, type := .uint8_t, write := true }
  storeByte (f.getD 0 0#20) val

@[reducible]
def write16 (p : PhysAddr) (val : BitVec 16) : EmuM W Unit := do
  let f ← resolve { addr := p, type := .uint16_t, write := true }
  storeByte (f.getD 0 0#20) (val.setWidth 8)
  storeByte (f.getD 1 0#20) ((val >>> 8).setWidth 8)

@[reducible]
def write32 (p : PhysAddr) (val : BitVec 32) : EmuM W Unit := do
  let f ← resolve { addr := p, type := .uint32_t, write := true }
  storeByte (f.getD 0 0#20) (val.setWidth 8)
  storeByte (f.getD 1 0#20) ((val >>> 8).setWidth 8)
  storeByte (f.getD 2 0#20) ((val >>> 16).setWidth 8)
  storeByte (f.getD 3 0#20) ((val >>> 24).setWidth 8)

@[reducible]
def readMem : (w : OperandWidth) -> PhysAddr -> EmuM W (BitVec w.bits)
  | .OP_WIDTH_8, p => read8 p
  | .OP_WIDTH_16, p => read16 p

@[reducible]
def writeMem : (w : OperandWidth) -> PhysAddr -> BitVec w.bits -> EmuM W Unit
  | .OP_WIDTH_8, p, val => write8 p val
  | .OP_WIDTH_16, p, val => write16 p val

/-!
## Ports
-/

/-- The effect of a device call on the board and the pending interrupt. -/
def Emulator.afterDevice (e : Emulator W) (out : W × Raised) : Emulator W :=
  { e with
    world := out.1
    pendingIrq :=
      match out.2 with
      | some v => v
      | none => e.pendingIrq }

/-- Call a device, if there is one at the port. -/
def device (addr : BitVec 16) (absent : α)
    (call : IOPorts W -> BitVec 16 -> W -> α × W × Raised) : EmuM W α :=
  fun r e =>
    let even := addr &&& ~~~1#16
    match r.io even with
    | none => ([], .ok (absent, e))
    | some p =>
        let out := call p (even - p.base) e.world
        ([], .ok (out.1, e.afterDevice out.2))

def lane (addr : BitVec 16) : Nat := (addr &&& 1#16).toNat

@[reducible]
def writeIo8 (addr : BitVec 16) (val : BitVec 8) : EmuM W Unit :=
  device addr () fun p port w => ((), p.write8 port (lane addr) val w)

@[reducible]
def writeIo16 (addr : BitVec 16) (val : BitVec 16) : EmuM W Unit :=
  device addr () fun p port w => ((), p.write16 port val w)

@[reducible]
def readIo8 (addr : BitVec 16) : EmuM W (BitVec 8) :=
  device addr 0#8 fun p port w => p.read8 port (lane addr) w

@[reducible]
def readIo16 (addr : BitVec 16) : EmuM W (BitVec 16) :=
  device addr 0#16 fun p port w => p.read16 port w

def ackInt (irqNum : BitVec 8) : EmuM W Unit := fun r e =>
  ([], .ok ((), e.afterDevice (r.ackInt irqNum e.world)))

/-!
## The current instruction
-/

def getInstrLength : EmuM W Nat := gets fun e => e.instrLength

def getOpcode : EmuM W (BitVec 8) := gets fun e => e.opcode

def getHasRepPrefix : EmuM W Bool := gets fun e => e.hasRepPrefix

def takeJump : EmuM W Unit := modify fun e => { e with jumpTaken := true }

def inhibitExtInt : EmuM W Unit :=
  modify fun e => { e with extIntInhibit := true }

/-- The value of `instr_length++`. -/
def nextByte : EmuM W Nat := fun _ e =>
  ([], .ok (e.instrLength, { e with instrLength := e.instrLength + 1 }))

@[reducible]
def fetchByte : EmuM W (BitVec 8) := do
  let cs ← get .CS
  let ip ← get .IP
  let n ← nextByte
  readCode (getPhysAddr cs (ip.toNat + n))

@[reducible]
def fetch16bit : EmuM W (BitVec 16) := do
  let low ← fetchByte
  let high ← fetchByte
  return low.setWidth 16 ||| high.setWidth 16 <<< 8

/-- An immediate of the operand width. -/
@[reducible]
def fetch : (w : OperandWidth) -> EmuM W (BitVec w.bits)
  | .OP_WIDTH_8 => fetchByte
  | .OP_WIDTH_16 => fetch16bit

/-- `IP + instr_length`, the address after the bytes fetched so far. -/
@[reducible]
def nextIp : EmuM W (BitVec 16) := do
  let ip ← get .IP
  let n ← getInstrLength
  return ip + BitVec.ofNat 16 n

/-!
## The stack
-/

@[reducible]
def pushWord (v : BitVec 16) : EmuM W Unit := do
  let sp ← get .SP
  set .SP (sp - 2#16)
  let ss ← get .SS
  let sp ← get .SP
  write16 (getPhysAddr ss sp.toNat) v

@[reducible]
def popWord : EmuM W (BitVec 16) := do
  let ss ← get .SS
  let sp ← get .SP
  let v ← read16 (getPhysAddr ss sp.toNat)
  let sp ← get .SP
  set .SP (sp + 2#16)
  return v

end Sim
end S80x86
