import S80x86.Rtl.Microinstruction
import S80x86.Rtl.ModRMDecode
import S80x86.Rtl.Bus

/-!
# The units of the datapath

The small units around the arithmetic unit, each with its registers and one
clock edge outside reset.
-/

namespace S80x86
namespace Rtl

/-!
## Registers
-/

abbrev Gprs := BitVec 3 -> BitVec 16

namespace Gprs

/-- A register or, of a byte operation, half of one of the first four. -/
def read (g : Gprs) (is8Bit : Bool) (sel : BitVec 3) : BitVec 16 :=
  if is8Bit then
    let r := g (0#1 ++ sel.extractLsb' 0 2)
    if sel.getLsbD 2 then (r.extractLsb' 8 8).setWidth 16
    else (r.extractLsb' 0 8).setWidth 16
  else g sel

def set (g : Gprs) (sel : BitVec 3) (val : BitVec 16) : Gprs := fun n =>
  if n = sel then val else g n

def write (g : Gprs) (is8Bit : Bool) (sel : BitVec 3) (val : BitVec 16) :
    Gprs :=
  if is8Bit then
    let n := 0#1 ++ sel.extractLsb' 0 2
    if sel.getLsbD 2 then
      g.set n (val.extractLsb' 0 8 ++ (g n).extractLsb' 0 8)
    else g.set n ((g n).extractLsb' 8 8 ++ val.extractLsb' 0 8)
  else g.set sel val

end Gprs

namespace RegisterFile

structure Input where
  is8Bit : Bool
  rdSel0 : BitVec 3
  rdSel1 : BitVec 3
  wrSel : BitVec 3
  wrVal : BitVec 16
  wrEn : Bool

structure State where
  gprs : Gprs
  rdVal0 : BitVec 16
  rdVal1 : BitVec 16
  si : BitVec 16
  di : BitVec 16
  bp : BitVec 16
  bx : BitVec 16

/-- What a read port latches: the value being written, if it is this one. -/
def port (i : Input) (g : Gprs) (sel : BitVec 3) : BitVec 16 :=
  if i.wrEn && i.wrSel == sel then
    if i.is8Bit then (i.wrVal.extractLsb' 0 8).setWidth 16 else i.wrVal
  else g.read i.is8Bit sel

/-- The copy of a word register for the address unit. -/
def copy (i : Input) (g : Gprs) (sel : BitVec 3) : BitVec 16 :=
  if i.wrEn && !i.is8Bit && i.wrSel == sel then i.wrVal else g sel

def copyBx (i : Input) (g : Gprs) : BitVec 16 :=
  if i.wrEn && i.is8Bit && i.wrSel == GPR.BH then
    i.wrVal.extractLsb' 0 8 ++ (g GPR.BX).extractLsb' 0 8
  else if i.wrEn && i.is8Bit && i.wrSel == GPR.BL then
    (g GPR.BX).extractLsb' 8 8 ++ i.wrVal.extractLsb' 0 8
  else copy i g GPR.BX

def step (i : Input) (s : State) : State :=
  { gprs := if i.wrEn then s.gprs.write i.is8Bit i.wrSel i.wrVal else s.gprs
    rdVal0 := port i s.gprs i.rdSel0
    rdVal1 := port i s.gprs i.rdSel1
    si := copy i s.gprs GPR.SI
    di := copy i s.gprs GPR.DI
    bp := copy i s.gprs GPR.BP
    bx := copyBx i s.gprs }

end RegisterFile

namespace SegmentRegisterFile

abbrev Registers := SR -> BitVec 16

structure Input where
  rdSel : SR
  wrEn : Bool
  wrSel : SR
  wrVal : BitVec 16

structure State where
  registers : Registers
  rdVal : BitVec 16

def set (r : Registers) (sel : SR) (val : BitVec 16) : Registers := fun n =>
  if n = sel then val else r n

def step (i : Input) (s : State) : State :=
  { registers :=
      if i.wrEn then set s.registers i.wrSel i.wrVal else s.registers
    rdVal :=
      if i.wrEn && i.wrSel == i.rdSel then i.wrVal else s.registers i.rdSel }

end SegmentRegisterFile

namespace SegmentOverride

structure Input where
  nextInstruction : Bool
  flush : Bool
  update : Bool
  forceSegment : Bool
  bpIsBase : Bool
  segmentOverride : Bool
  overrideIn : SR
  microcodeSrRdSel : SR

structure State where
  override : SR
  overrideActive : Bool

def srRdSel (i : Input) (s : State) : SR :=
  if i.forceSegment then i.microcodeSrRdSel
  else if i.update && i.segmentOverride then i.overrideIn
  else if s.overrideActive then s.override
  else if i.bpIsBase then .SS
  else i.microcodeSrRdSel

def step (i : Input) (s : State) : State :=
  if i.update && i.segmentOverride then
    { override := i.overrideIn, overrideActive := true }
  else if i.nextInstruction || i.flush then
    { override := .ES, overrideActive := false }
  else s

end SegmentOverride

namespace TempReg

def step (wrEn : Bool) (wrVal r : BitVec 16) : BitVec 16 :=
  if wrEn then wrVal else r

end TempReg

namespace LoopCounter

def done (count : BitVec 5) : Bool := count == 0#5

def step (load next : Bool) (countIn count : BitVec 5) : BitVec 5 :=
  if load then countIn
  else if next && count != 0#5 then count - 1#5
  else count

end LoopCounter

namespace PosedgeToPulse

structure State where
  dPrev : Bool
  q : Bool

def step (d : Bool) (s : State) : State :=
  { dPrev := d, q := Bool.xor d s.dPrev && d }

end PosedgeToPulse

/-!
## Flags
-/

structure Flags where
  C : Bool
  P : Bool
  A : Bool
  Z : Bool
  S : Bool
  T : Bool
  I : Bool
  D : Bool
  O : Bool
  deriving DecidableEq, Repr

namespace Flags

open Rtl.Flag

/-- `flags_out` of the 8086 configuration. -/
def flagsOut (f : Flags) : BitVec 16 :=
  0b1111#4 ++ BitVec.ofBool f.O ++ BitVec.ofBool f.D ++ BitVec.ofBool f.I ++
    BitVec.ofBool f.T ++ BitVec.ofBool f.S ++ BitVec.ofBool f.Z ++ 0b0#1 ++
    BitVec.ofBool f.A ++ 0b0#1 ++ BitVec.ofBool f.P ++ 0b1#1 ++
    BitVec.ofBool f.C

def step (updateFlags : List UpdateFlags) (flagsIn : BitVec 16) (f : Flags) :
    Flags :=
  let latch (u : UpdateFlags) (idx : Nat) (old : Bool) :=
    if updateFlags.contains u then flagsIn.getLsbD idx else old
  { C := latch .CF CF_IDX f.C
    P := latch .PF PF_IDX f.P
    A := latch .AF AF_IDX f.A
    Z := latch .ZF ZF_IDX f.Z
    S := latch .SF SF_IDX f.S
    T := latch .TF TF_IDX f.T
    I := latch .IF IF_IDX f.I
    D := latch .DF DF_IDX f.D
    O := latch .OF OF_IDX f.O }

end Flags

namespace JumpTest

open Rtl.Flag

def taken (opcode : BitVec 8) (flags : BitVec 16) : Bool :=
  let CF := flags.getLsbD CF_IDX
  let PF := flags.getLsbD PF_IDX
  let ZF := flags.getLsbD ZF_IDX
  let SF := flags.getLsbD SF_IDX
  let OF := flags.getLsbD OF_IDX
  if opcode == 0x62#8 then CF
  else if opcode == 0x70#8 then OF
  else if opcode == 0x71#8 then !OF
  else if opcode == 0x72#8 then CF
  else if opcode == 0x73#8 then !CF
  else if opcode == 0x74#8 then ZF
  else if opcode == 0x75#8 then !ZF
  else if opcode == 0x76#8 then CF || ZF
  else if opcode == 0x77#8 then !(CF || ZF)
  else if opcode == 0x78#8 then SF
  else if opcode == 0x79#8 then !SF
  else if opcode == 0x7a#8 then PF
  else if opcode == 0x7b#8 then !PF
  else if opcode == 0x7c#8 then Bool.xor OF SF
  else if opcode == 0x7d#8 then !(Bool.xor SF OF)
  else if opcode == 0x7e#8 then Bool.xor OF SF || ZF
  else if opcode == 0x7f#8 then !(Bool.xor SF OF || ZF)
  else if opcode == 0xce#8 then OF
  else false

end JumpTest

/-!
## The instruction pointer
-/

namespace CSIPSync

structure Input where
  csUpdate : Bool
  ipUpdate : Bool
  ipIn : BitVec 16
  newIp : BitVec 16
  propagate : Bool

structure State where
  ip : BitVec 16
  ipUpdated : Bool
  csUpdated : Bool

def ipOut (i : Input) (s : State) : BitVec 16 :=
  if s.ipUpdated then s.ip else if i.ipUpdate then i.newIp else i.ipIn

def updateOut (i : Input) (s : State) : Bool :=
  i.propagate && (s.ipUpdated || s.csUpdated || i.csUpdate || i.ipUpdate)

def step (i : Input) (s : State) : State :=
  if i.propagate then { s with ipUpdated := false, csUpdated := false }
  else
    { ip := if i.ipUpdate && !s.ipUpdated then i.newIp else s.ip
      ipUpdated := s.ipUpdated || i.ipUpdate
      csUpdated := s.csUpdated || i.csUpdate }

end CSIPSync

namespace IP

structure Input where
  startInstruction : Bool
  nextInstruction : Bool
  rollback : Bool
  inc : BitVec 4
  wrEn : Bool
  wrVal : BitVec 16

structure State where
  curVal : BitVec 16
  instructionStartAddr : BitVec 16

def step (i : Input) (s : State) : State :=
  { curVal :=
      if i.wrEn then i.wrVal
      else if i.rollback then s.instructionStartAddr
      else if i.startInstruction then s.curVal + i.inc.setWidth 16
      else s.curVal
    instructionStartAddr :=
      if i.startInstruction || i.nextInstruction then
        if i.wrEn then i.wrVal else s.curVal
      else s.instructionStartAddr }

end IP

/-!
## Loads and stores
-/

namespace LoadStore

structure Input where
  writeMar : Bool
  segment : BitVec 16
  marIn : BitVec 16
  writeMdr : Bool
  mdrIn : BitVec 16
  mDataIn : BitVec 16
  mAck : Bool
  io : Bool
  start : Bool
  is8Bit : Bool
  wrEn : Bool

structure State where
  mar : BitVec 16
  mdr : BitVec 16
  fetching : Bool
  secondByte : Bool
  complete : Bool

def State.unaligned (s : State) : Bool := s.mar.getLsbD 0

def active (i : Input) (s : State) : Bool :=
  (i.start || s.fetching || s.secondByte) && !s.complete

def busy (i : Input) (s : State) : Bool := active i s

def mAccess (i : Input) (s : State) : Bool := active i s && !i.mAck

def mAddr (i : Input) (s : State) : BitVec 19 :=
  let second := (BitVec.ofBool s.secondByte).setWidth 19
  if !i.io then Bus.wordAddress i.segment s.mar + second
  else (s.mar.extractLsb' 1 15).setWidth 19 + second

def mDataOut (s : State) : BitVec 16 :=
  if s.unaligned && !s.secondByte then s.mdr.extractLsb' 0 8 ++ 0#8
  else if s.unaligned && s.secondByte then 0#8 ++ s.mdr.extractLsb' 8 8
  else s.mdr

/-- The byte enables, of the upper and the lower byte. -/
def mBytesel (i : Input) (s : State) : Bool × Bool :=
  if !i.is8Bit && !s.unaligned then (true, true)
  else if s.unaligned && !s.secondByte then (true, false)
  else (false, true)

def nextMdr (i : Input) (s : State) : BitVec 16 :=
  if i.start && !s.fetching && !i.wrEn then 0#16
  else if i.writeMdr then i.mdrIn
  else if !i.wrEn && i.mAck && !s.unaligned then
    if i.is8Bit then (i.mDataIn.extractLsb' 0 8).setWidth 16 else i.mDataIn
  else if !i.wrEn && i.mAck && s.unaligned && !s.secondByte then
    s.mdr.extractLsb' 8 8 ++ i.mDataIn.extractLsb' 8 8
  else if !i.wrEn && i.mAck && s.unaligned && s.secondByte then
    i.mDataIn.extractLsb' 0 8 ++ s.mdr.extractLsb' 0 8
  else s.mdr

def step (i : Input) (s : State) : State :=
  { mar := if i.writeMar then i.marIn else s.mar
    mdr := nextMdr i s
    fetching := if i.start then true else if s.complete then false
      else s.fetching
    secondByte :=
      if i.mAck && s.unaligned && !s.secondByte && !i.is8Bit then true
      else if (i.start && !s.fetching) || s.complete then false
      else s.secondByte
    complete := i.mAck &&
      (i.is8Bit || (s.unaligned && s.secondByte) || !s.unaligned) }

end LoadStore
end Rtl
end S80x86
