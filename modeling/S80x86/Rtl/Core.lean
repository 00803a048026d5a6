import S80x86.Rtl.Rom
import S80x86.Rtl.Units
import S80x86.Rtl.Divider

/-!
# The core

The sequencer of the microcode and the datapath it drives, one clock cycle at a
time, outside reset and with the debugger idle.  The prefetch unit and the
decoder are inputs: what they offer as the next instruction, and the bus of the
prefetch unit, which decides when a redirected fetch flushes the queues.  The
memory answers an access that is presented to it one cycle later, after as many
cycles as it likes.
-/

namespace S80x86
namespace Rtl

namespace Core

structure Input where
  nmi : Bool
  intr : Bool
  irq : BitVec 8
  /-- The memory accepts the access that is presented in this cycle. -/
  ready : Bool
  /-- What a port answers. -/
  ioData : BitVec 16
  instructionEmpty : Bool
  nextInstructionValue : Instruction
  prefetchAccess : Bool
  prefetchAck : Bool

end Core

/-- The registers of the core, and the answer of the memory. -/
structure Core where
  addr : Nat
  curInstruction : Instruction
  nmiPending : Bool
  extIntInhibit : Bool
  trapFlagSet : Bool
  inta : Bool
  nmiPulse : PosedgeToPulse.State
  registers : RegisterFile.State
  segments : SegmentRegisterFile.State
  override : SegmentOverride.State
  loadStore : LoadStore.State
  csip : CSIPSync.State
  ip : IP.State
  tmp : BitVec 16
  flags : Flags
  count : BitVec 5
  modrm : ModRMDecode.State
  divider : Divider
  abortCur : Bool
  mem : Memory
  mAck : Bool
  mDataIn : BitVec 16

namespace Core

def resetAddress : Nat := 0x129
def nmiAddress : Nat := 0x12a
def irqAddress : Nat := 0x12b
def singleStepAddress : Nat := 0x12c
def divideErrorAddress : Nat := 0x101
def nextInstructionAddress : Nat := 0x100
def modrmWaitAddress : Nat := 0x12e
def badOpcodeAddress : Nat := 0x12f
def debugWaitAddress : Nat := 0x102
def doIntAddress : Nat := 0x12d

variable (i : Input) (s : Core)

/-- The word that is being executed. -/
def current : Microinstruction := Microcode.mem s.addr

def opcode : BitVec 8 := s.curInstruction.opcode

def is8Bit : Bool := s.current.is8Bit s.opcode

def isHlt : Bool := s.opcode == 0xf4#8

def multibitShift : Bool :=
  s.opcode == 0xd2#8 || s.opcode == 0xd3#8 || s.opcode == 0xc0#8 ||
    s.opcode == 0xc1#8

/-!
## Buses and the arithmetic unit
-/

def immediate : BitVec 16 :=
  match s.current.immediate with
  | some v => v
  | none => s.curInstruction.immediates0

def aBus : BitVec 16 :=
  match s.current.aSel with
  | .RA => s.registers.rdVal0
  | .IP => s.ip.curVal
  | .MAR => s.loadStore.mar
  | .MDR => s.loadStore.mdr

def bBus : BitVec 16 :=
  match s.current.bSel with
  | .RB => s.registers.rdVal1
  | .IMMEDIATE => s.immediate
  | .IMMEDIATE2 => s.curInstruction.immediates1
  | .SR => s.segments.rdVal
  | .TEMP => s.tmp

def alu : ALU.Output :=
  ALU.run
    { a := s.aBus
      b := s.bBus
      is8Bit := s.is8Bit
      op := s.current.aluOp
      flagsIn := s.flags.flagsOut
      multibitShift := s.multibitShift
      shiftCount := s.tmp.extractLsb' 0 5 }

def aluOut : BitVec 16 := s.alu.out.setWidth 16

def dividerInputs : Divider.Inputs :=
  let signed := s.current.aluOp == .IDIV
  let mdr := s.loadStore.mdr
  { reset := false
    start := s.current.divide && !s.divider.complete
    is8Bit := s.is8Bit
    isSigned := signed
    dividend :=
      if s.is8Bit then
        if signed then s.tmp.signExtend 32 else s.tmp.setWidth 32
      else s.registers.rdVal0 ++ s.tmp
    divisor :=
      if s.is8Bit && signed then (mdr.extractLsb' 0 8).signExtend 16 else mdr }

/-!
## Stalls
-/

def loadStoreStart : Bool :=
  (s.current.memRead || s.current.memWrite) && !s.loadStore.complete

def loadStoreBusy : Bool :=
  (s.loadStoreStart || s.loadStore.fetching || s.loadStore.secondByte) &&
    !s.loadStore.complete

def stall : Bool :=
  s.loadStoreBusy || s.divider.busy s.dividerInputs || s.alu.busy

def doNextInstruction : Bool := s.current.nextInstruction && !s.stall

/-!
## The next instruction pointer
-/

def regWrSel : BitVec 3 :=
  match s.current.rdSelSource with
  | .MODRM_REG => s.modrm.regnum
  | .MODRM_RM_REG => s.modrm.rmRegnum
  | _ => s.current.rdSel

/-- The segment register a number names. -/
def segmentOf (n : BitVec 2) : SR :=
  match n.toFin with
  | 0 => .ES
  | 1 => .CS
  | 2 => .SS
  | 3 => .DS

def segWrSel : SR :=
  if s.current.segmentForce then s.current.segment
  else segmentOf (s.regWrSel.extractLsb' 0 2)

def csipInput : CSIPSync.Input :=
  { csUpdate := s.segWrSel == .CS && s.current.segmentWrEn
    ipUpdate := s.current.loadIp
    ipIn := s.ip.curVal
    newIp := s.aluOut
    propagate := s.doNextInstruction }

def loadNewIp : Bool := CSIPSync.updateOut s.csipInput s.csip

def newIp : BitVec 16 := CSIPSync.ipOut s.csipInput s.csip

def fifoReset : Bool := s.loadNewIp || (s.abortCur && i.prefetchAck)

/-!
## The sequencer
-/

def repComplete : Bool :=
  match s.curInstruction.rep with
  | .E => !s.flags.Z
  | .NE => s.flags.Z
  | .NONE => false

def jumpTarget : Nat :=
  let m := s.current
  let orNext (c : Bool) : Nat := if c then m.next else s.addr + 1
  match m.jumpType with
  | .RM_REG_MEM => m.next + if s.modrm.rmIsReg then 0 else 1
  | .OPCODE =>
      if !i.instructionEmpty then i.nextInstructionValue.opcode.toNat
      else s.addr
  | .DISPATCH_REG => m.next + s.modrm.regnum.toNat
  | .HAS_NO_REP_PREFIX => orNext (s.curInstruction.rep == .NONE)
  | .ZERO => orNext s.flags.Z
  | .REP_NOT_COMPLETE => orNext (!s.repComplete)
  | .RB_ZERO => orNext (s.registers.rdVal1 == 0#16)
  | .LOOP_DONE => orNext (LoopCounter.done s.count)
  | .JUMP_TAKEN => orNext (JumpTest.taken s.opcode s.flags.flagsOut)
  | .UNCONDITIONAL => m.next

def takeNmi : Bool :=
  (s.nmiPending || s.nmiPulse.q) && !s.extIntInhibit &&
    !s.current.extIntInhibit

def takeIrq : Bool :=
  i.intr && s.flags.I && !s.extIntInhibit && !s.current.extIntInhibit

def doSingleStep : Bool :=
  s.current.nextInstruction && !s.extIntInhibit && s.trapFlagSet &&
    s.current.next != debugWaitAddress && !s.current.extIntInhibit

/-- Whether the next instruction can be started. -/
def offered : Bool := !i.instructionEmpty && !s.fifoReset i

def nextAddr : Nat :=
  let m := s.current
  if s.stall then s.addr
  else if m.extIntYield && s.takeNmi then nmiAddress
  else if m.extIntYield && s.takeIrq i then irqAddress
  else if s.addr == nextInstructionAddress && s.offered i &&
      i.nextInstructionValue.invalid then badOpcodeAddress
  else if m.jumpType != .UNCONDITIONAL then s.jumpTarget i
  else if s.divider.error then divideErrorAddress
  else if m.nextInstruction && s.takeNmi then nmiAddress
  else if m.nextInstruction && s.takeIrq i then irqAddress
  else if (m.nextInstruction && s.doSingleStep) ||
      (s.isHlt && s.trapFlagSet) then singleStepAddress
  else if m.nextInstruction || (s.isHlt && i.intr) then
    if s.offered i then
      if i.nextInstructionValue.hasModrm then modrmWaitAddress
      else i.nextInstructionValue.opcode.toNat
    else nextInstructionAddress
  else m.next

def startingInstruction : Bool :=
  !s.stall && s.nextAddr i == i.nextInstructionValue.opcode.toNat

def modrmStart : Bool :=
  s.addr == modrmWaitAddress ||
    (s.addr == nextInstructionAddress && !i.instructionEmpty &&
      i.nextInstructionValue.hasModrm)

def irqToMdr : Bool := s.nextAddr i == irqAddress

def startInterrupt : Bool :=
  s.nextAddr i == nmiAddress || s.nextAddr i == irqAddress

def doEscapeFault : Bool :=
  s.opcode.extractLsb' 3 5 == 0b11011#5 && s.nextAddr i == doIntAddress

/-!
## What the units see
-/

def registersInput : RegisterFile.Input :=
  { is8Bit := s.is8Bit
    rdSel0 := if s.current.raModrmRmReg then s.modrm.rmRegnum
      else s.current.raSel
    rdSel1 := if s.current.rbCl then GPR.CL else s.modrm.regnum
    wrSel := s.regWrSel
    wrVal :=
      match s.current.regWrSource with
      | .Q => s.aluOut
      | .QUOTIENT => s.divider.quotient
      | .REMAINDER => s.divider.remainder s.dividerInputs
    wrEn := s.current.regWrEn }

def overrideInput : SegmentOverride.Input :=
  { nextInstruction := s.doNextInstruction
    flush := s.fifoReset i
    update := s.startingInstruction i
    forceSegment := s.current.segmentForce
    bpIsBase := s.modrm.bpAsBase
    segmentOverride := i.nextInstructionValue.hasSegmentOverride
    overrideIn := i.nextInstructionValue.segment
    microcodeSrRdSel := s.current.segment }

def segmentsInput : SegmentRegisterFile.Input :=
  { rdSel := SegmentOverride.srRdSel (s.overrideInput i) s.override
    wrEn := s.current.segmentWrEn
    wrSel := s.segWrSel
    wrVal := s.aluOut }

def loadStoreInput : LoadStore.Input :=
  { writeMar := s.current.marWrite && s.addr != s.nextAddr i
    segment := s.segments.rdVal
    marIn := match s.current.marWrSel with
      | .EA => s.modrm.effectiveAddress
      | .Q => s.aluOut
    writeMdr := s.current.mdrWrite || s.irqToMdr i
    mdrIn := if s.current.mdrWrite then s.aluOut else i.irq.setWidth 16
    mDataIn := s.mDataIn
    mAck := s.mAck
    io := s.current.io
    start := s.loadStoreStart
    is8Bit := s.is8Bit
    wrEn := s.current.memWrite }

def ipInput : IP.Input :=
  { startInstruction := s.startingInstruction i
    nextInstruction := s.doNextInstruction
    rollback := (s.startInterrupt i && s.current.extIntYield && !s.isHlt) ||
      s.doEscapeFault i
    inc := i.nextInstructionValue.length
    wrEn := s.loadNewIp
    wrVal := s.newIp }

def modrmInput : ModRMDecode.Input :=
  { start := s.modrmStart i
    clear := s.doNextInstruction || s.startInterrupt i || s.fifoReset i
    modrm := i.nextInstructionValue.modRm
    displacement := i.nextInstructionValue.displacement
    si := s.registers.si
    di := s.registers.di
    bp := s.registers.bp
    bx := s.registers.bx }

/-!
## The memory
-/

/-- The access that is presented and accepted. -/
def accepted : Bool :=
  LoadStore.mAccess (s.loadStoreInput i) s.loadStore && i.ready

/-- A word written through its byte enables. -/
def writeWord (mem : Memory) (a : BitVec 19) (enables : Bool × Bool)
    (val : BitVec 16) : Memory := fun b =>
  if enables.1 && b == Bus.highByteAddress a then val.extractLsb' 8 8
  else if enables.2 && b == Bus.lowByteAddress a then val.extractLsb' 0 8
  else mem b

def nextMem : Memory :=
  let l := s.loadStoreInput i
  if s.accepted i && s.current.memWrite && !s.current.io then
    writeWord s.mem (LoadStore.mAddr l s.loadStore)
      (LoadStore.mBytesel l s.loadStore) (LoadStore.mDataOut s.loadStore)
  else s.mem

def nextMDataIn : BitVec 16 :=
  let l := s.loadStoreInput i
  if s.current.io then i.ioData
  else Bus.readWord s.mem (LoadStore.mAddr l s.loadStore)

/-!
## One cycle
-/

def step : Core :=
  { addr := s.nextAddr i
    curInstruction :=
      if s.startingInstruction i then i.nextInstructionValue
      else s.curInstruction
    nmiPending :=
      if s.nextAddr i == nmiAddress then false
      else s.nmiPending || s.nmiPulse.q
    extIntInhibit :=
      if s.current.extIntInhibit && s.current.next != debugWaitAddress then
        true
      else if s.startingInstruction i then false
      else s.extIntInhibit
    trapFlagSet :=
      if s.nextAddr i == singleStepAddress then false
      else if s.startingInstruction i then s.flags.T
      else s.trapFlagSet
    inta := s.nextAddr i == irqAddress && s.addr != irqAddress
    nmiPulse := PosedgeToPulse.step i.nmi s.nmiPulse
    registers := RegisterFile.step s.registersInput s.registers
    segments := SegmentRegisterFile.step (s.segmentsInput i) s.segments
    override := SegmentOverride.step (s.overrideInput i) s.override
    loadStore := LoadStore.step (s.loadStoreInput i) s.loadStore
    csip := CSIPSync.step s.csipInput s.csip
    ip := IP.step (s.ipInput i) s.ip
    tmp := TempReg.step s.current.tmpWrEn
      (match s.current.tmpWrSel with
      | .Q_LOW => s.aluOut
      | .Q_HIGH => s.alu.out.extractLsb' 16 16) s.tmp
    flags := Flags.step s.current.updateFlags s.alu.flagsOut s.flags
    count := LoopCounter.step (s.startingInstruction i)
      (!s.stall && s.current.jumpType == .LOOP_DONE)
      (i.nextInstructionValue.immediates1.extractLsb' 0 5) s.count
    modrm := ModRMDecode.step (s.modrmInput i) s.modrm
    divider := s.divider.step s.dividerInputs
    abortCur :=
      if s.abortCur && i.prefetchAck then false
      else s.abortCur || (i.prefetchAccess && s.loadNewIp)
    mem := s.nextMem i
    mAck := s.accepted i
    mDataIn := s.nextMDataIn i }

end Core
end Rtl
end S80x86
