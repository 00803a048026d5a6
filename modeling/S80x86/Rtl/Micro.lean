import S80x86.Rtl.Core
import S80x86.Rtl.DividerCorrect

/-!
# Microprograms, one microinstruction at a time

What a microinstruction does from its first cycle to its last, with the waits
for memory, divider and shifter taken together.  `Machine` holds what the
microprogram of one instruction can see; the instruction, the fields of its
ModRM byte and the override prefix do not change while it runs.
-/

namespace S80x86
namespace Rtl

/-- The registers an instruction leaves to the next one. -/
structure Arch where
  gprs : Gprs
  segments : SegmentRegisterFile.Registers
  flags : Flags
  ip : BitVec 16
  mem : Memory

structure Machine where
  gprs : Gprs
  ra : BitVec 16
  rb : BitVec 16
  segments : SegmentRegisterFile.Registers
  sr : BitVec 16
  flags : Flags
  mar : BitVec 16
  mdr : BitVec 16
  tmp : BitVec 16
  newIp : Option (BitVec 16)
  count : BitVec 5
  quotient : BitVec 16
  P : BitVec 64
  divideError : Bool
  mem : Memory
  insn : Instruction
  ip : BitVec 16
  modrm : ModRMDecode.State
  override : Option SR

namespace Machine

variable (u : Microinstruction) (m : Machine)

def is8Bit : Bool := u.is8Bit m.insn.opcode

def multibitShift : Bool :=
  let opcode := m.insn.opcode
  opcode == 0xd2#8 || opcode == 0xd3#8 || opcode == 0xc0#8 || opcode == 0xc1#8

def aBus : BitVec 16 :=
  match u.aSel with
  | .RA => m.ra
  | .IP => m.ip
  | .MAR => m.mar
  | .MDR => m.mdr

def immediate : BitVec 16 :=
  match u.immediate with
  | some v => v
  | none => m.insn.immediates0

def bBus : BitVec 16 :=
  match u.bSel with
  | .RB => m.rb
  | .IMMEDIATE => m.immediate u
  | .IMMEDIATE2 => m.insn.immediates1
  | .SR => m.sr
  | .TEMP => m.tmp

def alu : ALU.Output :=
  ALU.run
    { a := m.aBus u
      b := m.bBus u
      is8Bit := m.is8Bit u
      op := u.aluOp
      flagsIn := m.flags.flagsOut
      multibitShift := m.multibitShift
      shiftCount := m.tmp.extractLsb' 0 5 }

def aluOut : BitVec 16 := (m.alu u).out.setWidth 16

def dividerInputs : Divider.Inputs :=
  let signed := u.aluOp == .IDIV
  { reset := false
    start := u.divide
    is8Bit := m.is8Bit u
    isSigned := signed
    dividend :=
      if m.is8Bit u then
        if signed then m.tmp.signExtend 32 else m.tmp.setWidth 32
      else m.ra ++ m.tmp
    divisor :=
      if m.is8Bit u && signed then (m.mdr.extractLsb' 0 8).signExtend 16
      else m.mdr }

/-!
## Selections
-/

def regWrSel : BitVec 3 :=
  match u.rdSelSource with
  | .MODRM_REG => m.modrm.regnum
  | .MODRM_RM_REG => m.modrm.rmRegnum
  | _ => u.rdSel

def regWrVal : BitVec 16 :=
  match u.regWrSource with
  | .Q => m.aluOut u
  | .QUOTIENT => m.quotient
  | .REMAINDER =>
      if m.is8Bit u then (m.P.extractLsb' 8 8).signExtend 16
      else m.P.extractLsb' 16 16

def segWrSel : SR :=
  if u.segmentForce then u.segment
  else Core.segmentOf ((m.regWrSel u).extractLsb' 0 2)

def nextGprs : Gprs :=
  if u.regWrEn then m.gprs.write (m.is8Bit u) (m.regWrSel u) (m.regWrVal u)
  else m.gprs

def nextSegments : SegmentRegisterFile.Registers :=
  if u.segmentWrEn then
    SegmentRegisterFile.set m.segments (m.segWrSel u) (m.aluOut u)
  else m.segments

def raSel : BitVec 3 := if u.raModrmRmReg then m.modrm.rmRegnum else u.raSel

def rbSel : BitVec 3 := if u.rbCl then GPR.CL else m.modrm.regnum

/-- The segment register that is read for the next microinstruction. -/
def srSel : SR :=
  if u.segmentForce then u.segment
  else m.override.getD (if m.modrm.bpAsBase then .SS else u.segment)

/-!
## Memory
-/

def loadByte (mem : Memory) (segment offset : BitVec 16) : BitVec 8 :=
  mem (Bus.linear segment offset)

/-- The second byte is the next one in memory, not in the segment. -/
def loadWord (mem : Memory) (segment offset : BitVec 16) : BitVec 16 :=
  mem (Bus.linear segment offset + 1#20) ++ loadByte mem segment offset

def storeByte (mem : Memory) (segment offset : BitVec 16) (v : BitVec 8) :
    Memory := fun a =>
  if a = Bus.linear segment offset then v else mem a

def storeWord (mem : Memory) (segment offset v : BitVec 16) : Memory :=
  fun a =>
    if a = Bus.linear segment offset + 1#20 then v.extractLsb' 8 8
    else storeByte mem segment offset (v.extractLsb' 0 8) a

/-- After a wait the read ports show what this microinstruction selects. -/
def waited : Machine :=
  { m with
    ra := m.gprs.read (m.is8Bit u) (m.raSel u)
    rb := m.gprs.read (m.is8Bit u) (m.rbSel u)
    sr := m.segments (m.srSel u) }

/-- A store has been accepted. -/
def stored : Machine :=
  { m.waited u with
    mem :=
      if m.is8Bit u then storeByte m.mem m.sr m.mar (m.mdr.extractLsb' 0 8)
      else storeWord m.mem m.sr m.mar m.mdr }

/-- A load has been answered. -/
def loaded : Machine :=
  { m.waited u with
    mdr :=
      if m.is8Bit u then (loadByte m.mem m.sr m.mar).setWidth 16
      else loadWord m.mem m.sr m.mar }

/-!
## Clock edges
-/

/-- The registers after an edge that does not end the microinstruction. -/
def edge : Machine :=
  { m with
    gprs := m.nextGprs u
    ra := (m.nextGprs u).read (m.is8Bit u) (m.raSel u)
    rb := (m.nextGprs u).read (m.is8Bit u) (m.rbSel u)
    segments := m.nextSegments u
    sr := m.nextSegments u (m.srSel u)
    flags := Flags.step u.updateFlags (m.alu u).flagsOut m.flags
    mdr := if u.mdrWrite then m.aluOut u else m.mdr
    tmp := TempReg.step u.tmpWrEn
      (match u.tmpWrSel with
      | .Q_LOW => m.aluOut u
      | .Q_HIGH => (m.alu u).out.extractLsb' 16 16) m.tmp }

/-- The cycles in which the shifter is busy. -/
def shifted : Nat -> Machine -> Machine
  | 0, m => m
  | n + 1, m => if (m.alu u).busy then shifted n (m.edge u) else m

/-- The divider when it completes. -/
def divided : Nat -> Divider.Inputs -> Divider -> Divider
  | 0, _, d => d
  | n + 1, i, d => if d.complete then d else divided n i (Divider.drive i d)

/-- The divider before it is started. -/
def idleDivider : Divider :=
  { state := .INIT, P := m.P, idx := 0#4, quotient := m.quotient
    error := false, complete := false }

/-- The registers in the last cycle of the microinstruction. -/
def last : Machine :=
  if u.memWrite then m.stored u
  else if u.memRead then m.loaded u
  else if u.divide then
    let d := divided 20 (m.dividerInputs u) m.idleDivider
    { m.waited u with quotient := d.quotient, P := d.P, divideError := d.error }
  else shifted u 32 m

/-- Where the last cycle goes when the instruction goes on. -/
def target (addr : Nat) : Nat :=
  let orNext (c : Bool) : Nat := if c then u.next else addr + 1
  match u.jumpType with
  | .RM_REG_MEM => u.next + if m.modrm.rmIsReg then 0 else 1
  | .OPCODE => addr
  | .DISPATCH_REG => u.next + m.modrm.regnum.toNat
  | .HAS_NO_REP_PREFIX => orNext (m.insn.rep == .NONE)
  | .ZERO => orNext m.flags.Z
  | .REP_NOT_COMPLETE =>
      orNext (!(match m.insn.rep with
        | .E => !m.flags.Z
        | .NE => m.flags.Z
        | .NONE => false))
  | .RB_ZERO => orNext (m.rb == 0#16)
  | .LOOP_DONE => orNext (LoopCounter.done m.count)
  | .JUMP_TAKEN => orNext (JumpTest.taken m.insn.opcode m.flags.flagsOut)
  | .UNCONDITIONAL =>
      if u.divide && m.divideError then Core.divideErrorAddress else u.next

/-- The instruction pointer that waits for the end of the instruction. -/
def loadedIp : Option (BitVec 16) :=
  m.newIp.or (if u.loadIp then some (m.aluOut u) else none)

/-- The last edge, when another microinstruction follows. -/
def advance : Machine :=
  { m.edge u with
    mar :=
      if u.marWrite then
        match u.marWrSel with
        | .EA => m.modrm.effectiveAddress
        | .Q => m.aluOut u
      else m.mar
    newIp := m.loadedIp u
    count := LoopCounter.step false (u.jumpType == .LOOP_DONE) 0#5 m.count
    divideError := false }

/-- The last edge of the instruction. -/
def retire : Arch :=
  let m' := m.edge u
  { gprs := m'.gprs
    segments := m'.segments
    flags := m'.flags
    ip := (m.loadedIp u).getD m.ip
    mem := m'.mem }

/-!
## Microprograms
-/

/-- What a wait relies on has been selected before it. -/
structure Stable : Prop where
  sr : (u.memRead || u.memWrite) = true -> m.sr = m.segments (m.srSel u)
  ra : u.divide = true -> m.is8Bit u = false ->
    m.ra = m.gprs.read false (m.raSel u)
  presented : u.divide = true -> (m.dividerInputs u).Presented
  counts : (m.alu u).busy = true -> u.tmpWrEn = true ∧ u.tmpWrSel = .Q_HIGH

/-- The addresses at which the sequencer does no more than read the store. -/
def plainAddress (a : Nat) : Bool :=
  decide (Core.nextInstructionAddress < a) && a != Core.nmiAddress &&
    a != Core.irqAddress && a != Core.modrmWaitAddress

end Machine

namespace Microinstruction

def isShift (u : Microinstruction) : Bool :=
  u.aluOp == .ROL || u.aluOp == .ROR || u.aluOp == .RCL || u.aluOp == .RCR ||
    u.aluOp == .SHL || u.aluOp == .SHR || u.aluOp == .SAR

/-- The microinstruction waits for the memory or the divider. -/
def waits (u : Microinstruction) : Bool := u.memRead || u.memWrite || u.divide

def isSilent (u : Microinstruction) : Bool :=
  !u.regWrEn && !u.tmpWrEn && u.updateFlags.isEmpty && !u.isShift

def writesRegister (u : Microinstruction) : Bool :=
  u.regWrSource == .Q && !u.tmpWrEn && u.updateFlags.isEmpty &&
    u.aSel != .RA && (u.aluOp == .SELA ||
      ((u.aluOp == .ADD || u.aluOp == .SUB) && u.bSel == .IMMEDIATE))

def writesTmp (u : Microinstruction) : Bool :=
  !u.regWrEn && u.updateFlags.isEmpty &&
    (u.aluOp == .SELA || u.aluOp == .GETFLAGS)

def arithmeticFlags : List UpdateFlags := [.CF, .PF, .AF, .ZF, .SF, .OF]

def writesFlags (u : Microinstruction) : Bool :=
  !u.regWrEn && !u.tmpWrEn && (u.aluOp == .SETFLAGSA ||
    (u.aluOp == .SUB && u.updateFlags.all arithmeticFlags.contains))

/-- A microinstruction that waits writes its results in every cycle: what it
writes in the last one does not depend on what it wrote before. -/
def isSteady (u : Microinstruction) : Bool :=
  if u.waits then
    !(u.divide && (u.memRead || u.memWrite)) &&
      !u.mdrWrite && !u.segmentWrEn &&
      (u.jumpType == .UNCONDITIONAL || u.jumpType == .HAS_NO_REP_PREFIX ||
        u.jumpType == .LOOP_DONE) &&
      (u.isSilent || u.writesRegister || u.writesTmp || u.writesFlags) &&
      (!u.loadIp || (u.aSel == .IP && u.bSel == .IMMEDIATE &&
        u.aluOp == .ADD && u.isSilent))
  else !u.isShift || !u.loadIp

/-- Neither an interrupt, the instruction queue nor a port has a part in the
microinstruction. -/
def isInternal (u : Microinstruction) : Bool :=
  !u.extIntYield && u.jumpType != .OPCODE && !u.io && u.isSteady

end Microinstruction

/-- The microprogram at an address ends the instruction with these registers. -/
inductive Retires : Nat -> Machine -> Arch -> Prop where
  | last {addr : Nat} {m : Machine} (u : Microinstruction)
      (word : Microcode.mem addr = u) (isInternal : u.isInternal = true)
      (stable : m.Stable u) (ends : u.nextInstruction = true) :
      Retires addr m ((m.last u).retire u)
  | step {addr : Nat} {m : Machine} {a : Arch} (u : Microinstruction)
      (word : Microcode.mem addr = u) (isInternal : u.isInternal = true)
      (stable : m.Stable u) (goes : u.nextInstruction = false)
      (plain : Machine.plainAddress ((m.last u).target u addr) = true)
      (moves : (m.last u).target u addr ≠ addr)
      (rest : Retires ((m.last u).target u addr) ((m.last u).advance u) a) :
      Retires addr m a

end Rtl
end S80x86
