import S80x86.Sim.Control
import S80x86.Sim.Shift

/-!
# Fetching, dispatch and interrupts

One step of the emulator: a pending interrupt or one instruction, followed by
the interrupts that are taken at its end.
-/

namespace S80x86
namespace Sim

open Foundation.Effect Flag

variable {W : Type}

/-!
## Dispatch
-/

/-- A `case` of the switch: a range of opcodes and its handler. -/
structure Case (W : Type) where
  lo : Nat
  hi : Nat
  handler : EmuM W Unit

/-- The cases in the order of the source; a group of labels is one each. -/
def cases : List (Case W) :=
  [
    ⟨0x06, 0x06, pushsr⟩, ⟨0x0e, 0x0e, pushsr⟩, ⟨0x16, 0x16, pushsr⟩,
    ⟨0x1e, 0x1e, pushsr⟩, ⟨0x0f, 0x0f, invalidOpcode⟩, ⟨0x07, 0x07, popsr⟩,
    ⟨0x17, 0x17, popsr⟩, ⟨0x1f, 0x1f, popsr⟩, ⟨0x00, 0x00, add00⟩,
    ⟨0x01, 0x01, add01⟩, ⟨0x02, 0x02, add02⟩, ⟨0x03, 0x03, add03⟩,
    ⟨0x04, 0x04, add04⟩, ⟨0x05, 0x05, add05⟩, ⟨0x08, 0x08, or08⟩,
    ⟨0x09, 0x09, or09⟩, ⟨0x0a, 0x0a, or0a⟩, ⟨0x0b, 0x0b, or0b⟩,
    ⟨0x0c, 0x0c, or0c⟩, ⟨0x0d, 0x0d, or0d⟩, ⟨0x10, 0x10, adc10⟩,
    ⟨0x11, 0x11, adc11⟩, ⟨0x12, 0x12, adc12⟩, ⟨0x13, 0x13, adc13⟩,
    ⟨0x14, 0x14, adc14⟩, ⟨0x15, 0x15, adc15⟩, ⟨0x18, 0x18, sbb18⟩,
    ⟨0x19, 0x19, sbb19⟩, ⟨0x1a, 0x1a, sbb1a⟩, ⟨0x1b, 0x1b, sbb1b⟩,
    ⟨0x1c, 0x1c, sbb1c⟩, ⟨0x1d, 0x1d, sbb1d⟩, ⟨0x20, 0x20, and20⟩,
    ⟨0x21, 0x21, and21⟩, ⟨0x22, 0x22, and22⟩, ⟨0x23, 0x23, and23⟩,
    ⟨0x24, 0x24, and24⟩, ⟨0x25, 0x25, and25⟩, ⟨0x27, 0x27, daa27⟩,
    ⟨0x28, 0x28, sub28⟩, ⟨0x29, 0x29, sub29⟩, ⟨0x2a, 0x2a, sub2a⟩,
    ⟨0x2b, 0x2b, sub2b⟩, ⟨0x2c, 0x2c, sub2c⟩, ⟨0x2d, 0x2d, sub2d⟩,
    ⟨0x2f, 0x2f, das2f⟩, ⟨0x30, 0x30, xor30⟩, ⟨0x31, 0x31, xor31⟩,
    ⟨0x32, 0x32, xor32⟩, ⟨0x33, 0x33, xor33⟩, ⟨0x34, 0x34, xor34⟩,
    ⟨0x35, 0x35, xor35⟩, ⟨0x37, 0x37, aaa37⟩, ⟨0x38, 0x38, cmp38⟩,
    ⟨0x39, 0x39, cmp39⟩, ⟨0x3a, 0x3a, cmp3a⟩, ⟨0x3b, 0x3b, cmp3b⟩,
    ⟨0x3c, 0x3c, cmp3c⟩, ⟨0x3d, 0x3d, cmp3d⟩, ⟨0x3f, 0x3f, aas3f⟩,
    ⟨0x40, 0x47, inc40_47⟩, ⟨0x48, 0x4f, dec48_4f⟩, ⟨0x50, 0x57, push50_57⟩,
    ⟨0x58, 0x5f, pop58_5f⟩, ⟨0x60, 0x60, pusha60⟩, ⟨0x61, 0x61, popa61⟩,
    ⟨0x62, 0x62, bound62⟩, ⟨0x63, 0x63, invalidOpcode⟩,
    ⟨0x64, 0x64, invalidOpcode⟩, ⟨0x65, 0x65, invalidOpcode⟩,
    ⟨0x66, 0x66, invalidOpcode⟩, ⟨0x67, 0x67, invalidOpcode⟩,
    ⟨0x68, 0x68, push68⟩, ⟨0x69, 0x69, imul69⟩, ⟨0x6a, 0x6a, push6a⟩,
    ⟨0x6b, 0x6b, imul6b⟩, ⟨0x6c, 0x6c, insb6c⟩, ⟨0x6d, 0x6d, insw6d⟩,
    ⟨0x6e, 0x6e, outsb6e⟩, ⟨0x6f, 0x6f, outsw6f⟩, ⟨0x70, 0x70, jo70⟩,
    ⟨0x71, 0x71, jno71⟩, ⟨0x72, 0x72, jb72⟩, ⟨0x73, 0x73, jnb73⟩,
    ⟨0x74, 0x74, je74⟩, ⟨0x75, 0x75, jne75⟩, ⟨0x76, 0x76, jbe76⟩,
    ⟨0x77, 0x77, jnbe77⟩, ⟨0x78, 0x78, js78⟩, ⟨0x79, 0x79, jns79⟩,
    ⟨0x7a, 0x7a, jp7a⟩, ⟨0x7b, 0x7b, jnp7b⟩, ⟨0x7c, 0x7c, jl7c⟩,
    ⟨0x7d, 0x7d, jnl7d⟩, ⟨0x7e, 0x7e, jle7e⟩, ⟨0x7f, 0x7f, jnle7f⟩,
    ⟨0x80, 0x80, addAdcSubSbbCmpXorOrAnd80⟩,
    ⟨0x81, 0x81, addAdcSubSbbCmpXorOrAnd81⟩, ⟨0x82, 0x82, addAdcSubSbbCmp82⟩,
    ⟨0x83, 0x83, addAdcSubSbbCmp83⟩, ⟨0x84, 0x84, test84⟩,
    ⟨0x85, 0x85, test85⟩, ⟨0x86, 0x86, xchg86⟩, ⟨0x87, 0x87, xchg87⟩,
    ⟨0x88, 0x88, mov88⟩, ⟨0x89, 0x89, mov89⟩, ⟨0x8a, 0x8a, mov8a⟩,
    ⟨0x8b, 0x8b, mov8b⟩, ⟨0x8c, 0x8c, mov8c⟩, ⟨0x8d, 0x8d, lea8d⟩,
    ⟨0x8e, 0x8e, mov8e⟩, ⟨0x8f, 0x8f, pop8f⟩, ⟨0x90, 0x97, xchg90_97⟩,
    ⟨0x98, 0x98, cbw98⟩, ⟨0x99, 0x99, cwd99⟩, ⟨0x9a, 0x9a, call9a⟩,
    ⟨0x9b, 0x9b, wait9b⟩, ⟨0x9c, 0x9c, pushf9c⟩, ⟨0x9d, 0x9d, popf9d⟩,
    ⟨0x9e, 0x9e, sahf9e⟩, ⟨0x9f, 0x9f, lahf9f⟩, ⟨0xa0, 0xa0, mova0⟩,
    ⟨0xa1, 0xa1, mova1⟩, ⟨0xa2, 0xa2, mova2⟩, ⟨0xa3, 0xa3, mova3⟩,
    ⟨0xa4, 0xa4, movsba4⟩, ⟨0xa5, 0xa5, movswa5⟩, ⟨0xa6, 0xa6, cmpsba6⟩,
    ⟨0xa7, 0xa7, cmpswa7⟩, ⟨0xa8, 0xa8, testa8⟩, ⟨0xa9, 0xa9, testa9⟩,
    ⟨0xaa, 0xaa, stosbaa⟩, ⟨0xab, 0xab, stoswab⟩, ⟨0xac, 0xac, lodsbac⟩,
    ⟨0xad, 0xad, lodswad⟩, ⟨0xae, 0xae, scasbae⟩, ⟨0xaf, 0xaf, scasbaf⟩,
    ⟨0xb0, 0xb7, movb0_b7⟩, ⟨0xb8, 0xbf, movb8_bf⟩, ⟨0xc0, 0xc0, shiftc0⟩,
    ⟨0xc1, 0xc1, shiftc1⟩, ⟨0xc2, 0xc2, retc2⟩, ⟨0xc3, 0xc3, retc3⟩,
    ⟨0xc4, 0xc4, lesc4⟩, ⟨0xc5, 0xc5, ldsc5⟩, ⟨0xc6, 0xc6, movc6⟩,
    ⟨0xc7, 0xc7, movc7⟩, ⟨0xc8, 0xc8, enterc8⟩, ⟨0xc9, 0xc9, leavec9⟩,
    ⟨0xca, 0xca, retca⟩, ⟨0xcb, 0xcb, retcb⟩, ⟨0xcc, 0xcc, intcc⟩,
    ⟨0xcd, 0xcd, intcd⟩, ⟨0xce, 0xce, intoce⟩, ⟨0xcf, 0xcf, iretcf⟩,
    ⟨0xd0, 0xd0, shiftd0⟩, ⟨0xd1, 0xd1, shiftd1⟩, ⟨0xd2, 0xd2, shiftd2⟩,
    ⟨0xd3, 0xd3, shiftd3⟩, ⟨0xd4, 0xd4, aamd4⟩, ⟨0xd5, 0xd5, aadd5⟩,
    ⟨0xd6, 0xd6, setalcd6⟩, ⟨0xd7, 0xd7, xlatd7⟩, ⟨0xd8, 0xdf, escd8⟩,
    ⟨0xe0, 0xe0, loopnze0⟩, ⟨0xe1, 0xe1, loopee1⟩, ⟨0xe2, 0xe2, loope2⟩,
    ⟨0xe3, 0xe3, jcxze3⟩, ⟨0xe4, 0xe4, ine4⟩, ⟨0xe5, 0xe5, ine5⟩,
    ⟨0xe6, 0xe6, oute6⟩, ⟨0xe7, 0xe7, oute7⟩, ⟨0xe8, 0xe8, calle8⟩,
    ⟨0xe9, 0xe9, jmpe9⟩, ⟨0xea, 0xea, jmpea⟩, ⟨0xeb, 0xeb, jmpeb⟩,
    ⟨0xec, 0xec, inec⟩, ⟨0xed, 0xed, ined⟩, ⟨0xee, 0xee, outee⟩,
    ⟨0xef, 0xef, outef⟩, ⟨0xf1, 0xf1, invalidOpcode⟩, ⟨0xf4, 0xf4, hltf4⟩,
    ⟨0xf5, 0xf5, cmcf5⟩, ⟨0xf6, 0xf6, negMulNotTestDivF6⟩,
    ⟨0xf7, 0xf7, negMulNotTestDivF7⟩, ⟨0xf8, 0xf8, clcf8⟩, ⟨0xf9, 0xf9, stcf9⟩,
    ⟨0xfa, 0xfa, clifa⟩, ⟨0xfb, 0xfb, stifb⟩, ⟨0xfc, 0xfc, cldfc⟩,
    ⟨0xfd, 0xfd, stdfd⟩, ⟨0xfe, 0xfe, incDecFe⟩, ⟨0xff, 0xff, pushIncJmpCallFf⟩
  ]

def Case.covers (c : Case W) (opcode : BitVec 8) : Bool :=
  c.lo ≤ opcode.toNat && opcode.toNat ≤ c.hi

/-- The handler of an opcode; one without a case only prints a warning. -/
def execute (opcode : BitVec 8) : EmuM W Unit :=
  ((cases.find? fun c => c.covers opcode).map Case.handler).getD (pure ())

def isPrefix (opcode : BitVec 8) : Bool :=
  opcode == 0xf0#8 || opcode == 0x26#8 || opcode == 0x2e#8 ||
    opcode == 0x36#8 || opcode == 0x3e#8 || opcode == 0xf2#8 ||
    opcode == 0xf3#8

def setRep (mode : RepMode) : EmuM W Unit :=
  modify fun e => { e with repMode := mode, hasRepPrefix := true }

def processPrefix (opcode : BitVec 8) : EmuM W Unit :=
  if opcode = 0x26#8 then setOverrideSegment .ES
  else if opcode = 0x2e#8 then setOverrideSegment .CS
  else if opcode = 0x36#8 then setOverrideSegment .SS
  else if opcode = 0x3e#8 then setOverrideSegment .DS
  else if opcode = 0xf2#8 then setRep .REPNE
  else if opcode = 0xf3#8 then setRep .REPE
  else pure ()

def setOpcode (opcode : BitVec 8) : EmuM W Unit :=
  modify fun e => { e with opcode := opcode }

/-- Prefixes, then the instruction.  A megabyte of prefixes has been read in
full when the count is used up, and would be read again for ever. -/
def prefixLoop : Nat -> EmuM W Unit
  | 0 => fault .endlessPrefixes
  | n + 1 => do
      let opcode ← fetchByte
      setOpcode opcode
      if isPrefix opcode then
        processPrefix opcode
        prefixLoop n
      else execute opcode

/-- What is reset before every instruction; the rest stays behind. -/
def startInsn : EmuM W Unit :=
  modify fun e =>
    { e with
      instrLength := 0
      defaultSegmentOverriden := false
      hasRepPrefix := false
      modrmDecoder := { e.modrmDecoder with isDecoded := false }
      jumpTaken := false
      extIntInhibit := false }

def getJumpTaken : EmuM W Bool := gets fun e => e.jumpTaken

def setInstrLength (n : Nat) : EmuM W Unit :=
  modify fun e => { e with instrLength := n }

/-- An instruction of sixteen bytes or more is invalid. -/
def rejectLong : EmuM W Unit := do
  let n ← getInstrLength
  if 16 ≤ n then
    setInstrLength (n % 16)
    invalidOpcode

def advanceIp : EmuM W Unit := do
  let taken ← getJumpTaken
  if taken then pure ()
  else
    let next ← nextIp
    set .IP next

def emulateInsn : EmuM W Nat := do
  startInsn
  prefixLoop memorySize
  rejectLong
  advanceIp
  getInstrLength

/-!
## Interrupts and the step
-/

def getTfWasSet : EmuM W Bool := gets fun e => e.tfWasSet

def getExtIntInhibit : EmuM W Bool := gets fun e => e.extIntInhibit

def getNmiPending : EmuM W Bool := gets fun e => e.nmiPending

def getPendingIrq : EmuM W (BitVec 8) := gets fun e => e.pendingIrq

def singleStep : EmuM W Unit := do
  let tf ← getTfWasSet
  let inhibit ← getExtIntInhibit
  if !tf || inhibit then pure ()
  else interruptHere Vector.SINGLE_STEP

def clearNmi : EmuM W Unit := modify fun e => { e with nmiPending := false }

def clearIrq : EmuM W Unit := modify fun e => { e with pendingIrq := 0#8 }

def handleNmi : EmuM W Unit := do
  clearNmi
  interruptHere Vector.NMI
  singleStep

def handleIrq : EmuM W Unit := do
  let irqNum ← getPendingIrq
  assert (irqNum != 0#8)
  clearIrq
  ackInt irqNum
  interruptHere (irqNum.toNat * 4)
  singleStep

/-- Whether an NMI is pending and not inhibited. -/
@[reducible]
def nmiReady : EmuM W Bool := do
  let nmi ← getNmiPending
  let inhibit ← getExtIntInhibit
  return nmi && !inhibit

/-- Whether an interrupt request is pending, enabled and not inhibited. -/
@[reducible]
def irqReady : EmuM W Bool := do
  let irq ← getPendingIrq
  let inhibit ← getExtIntInhibit
  let enabled ← getFlag IF
  return irq != 0#8 && !inhibit && enabled

/-- The interrupts at the tail of an instruction. -/
def afterInsn : EmuM W Unit := do
  let nmi ← nmiReady
  let irq ← irqReady
  let inhibit ← getExtIntInhibit
  if nmi then handleNmi
  else if irq then handleIrq
  else if !inhibit then singleStep

def sampleTf : EmuM W Unit :=
  modify fun e => { e with tfWasSet := e.registers.getFlag TF }

def step : EmuM W Nat := do
  sampleTf
  let nmi ← nmiReady
  let irq ← irqReady
  if nmi then
    handleNmi
    return 0
  else if irq then
    handleIrq
    return 0
  else
    let len ← emulateInsn
    afterInsn
    return len

/-!
## Construction
-/

/-- A new emulator over given memory; members the constructor leaves alone
have the least value of their type. -/
def Emulator.fresh (world : W) (mem : BitVec 20 -> BitVec 8) : Emulator W :=
  { registers := .reset
    mem := { mem := mem, written := false }
    world := world
    instrLength := 0
    modrmDecoder :=
      { width := .OP_WIDTH_16, modrm := 0#8, cachedAddress := 0#16
        addrIsCached := false, isDecoded := false }
    opcode := 0#8
    jumpTaken := false
    defaultSegmentOverriden := false
    overrideSegment := .AX
    repMode := .REPE
    hasRepPrefix := false
    nmiPending := false
    extIntInhibit := false
    pendingIrq := 0#8
    tfWasSet := false }

/-- A board without devices. -/
def Environment.bare : Environment Unit :=
  { addressing := .emulator
    io := fun _ => none
    ackInt := fun _ w => (w, none)
    trapEscape := false }

def reset : EmuM W Unit :=
  modify fun e =>
    { e with
      registers := .reset
      opcode := 0#8
      instrLength := 0
      nmiPending := false
      extIntInhibit := false
      pendingIrq := 0#8 }

def raiseNmi : EmuM W Unit := modify fun e => { e with nmiPending := true }

def raiseIrq (irqNum : BitVec 8) : EmuM W Unit :=
  modify fun e => { e with pendingIrq := irqNum }

/-!
## Host accesses
-/

/-- What the host can do to the memory of the simulated processor. -/
inductive HostAccess where
  | readMem8 (segment addr : BitVec 16)
  | readMem16 (segment addr : BitVec 16)
  | readMem32 (segment addr : BitVec 16)
  | writeMem8 (segment addr : BitVec 16) (val : BitVec 8)
  | writeMem16 (segment addr : BitVec 16) (val : BitVec 16)
  | writeMem32 (segment addr : BitVec 16) (val : BitVec 32)

def HostAccess.run : HostAccess -> EmuM W (BitVec 32)
  | readMem8 segment addr => do
      let v ← read8 (getPhysAddr segment addr.toNat)
      return v.setWidth 32
  | readMem16 segment addr => do
      let v ← read16 (getPhysAddr segment addr.toNat)
      return v.setWidth 32
  | readMem32 segment addr => read32 (getPhysAddr segment addr.toNat)
  | writeMem8 segment addr val => do
      write8 (getPhysAddr segment addr.toNat) val
      return 0#32
  | writeMem16 segment addr val => do
      write16 (getPhysAddr segment addr.toNat) val
      return 0#32
  | writeMem32 segment addr val => do
      write32 (getPhysAddr segment addr.toNat) val
      return 0#32

/-- Whether `CS:IP` is where vector 3 points. -/
def hasTrapped : EmuM W Bool := do
  let intCs ← read16 (.vector (Vector.INT + 2))
  let intIp ← read16 (.vector Vector.INT)
  let cs ← get .CS
  let ip ← get .IP
  return cs == intCs && ip == intIp

end Sim
end S80x86
