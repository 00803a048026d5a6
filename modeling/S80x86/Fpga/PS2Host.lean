import S80x86.Foundation.Clocked

/-!
# The PS/2 host

The device clocks both directions.  Its clock and its data go through two
flip-flops, and a falling edge behind them is one sample.  To send, the host
holds the clock low for a while and then pulls the data low.
-/

open Foundation

namespace S80x86
namespace Fpga

structure BitSync where
  p1 : Bool
  p2 : Bool

def BitSync.step (reset d : Bool) (s : BitSync) : BitSync :=
  if reset then { p1 := false, p2 := false } else { p1 := d, p2 := s.p1 }

namespace PS2Host

inductive State where
  | idle
  -- Receive
  | rx
  | rxParity
  | stop
  -- Transmit
  | inhibit
  | txStart
  | tx
  | txParity
  | txStop
  | txAck
  deriving DecidableEq

def clkf : Nat := 50000000
def txClockInhibitReload : BitVec 13 := BitVec.ofNat 13 (clkf / 1000000 * 100)

structure Regs where
  clkInhibitCount : BitVec 13
  clkSync : BitSync
  datSync : BitSync
  lastPs2Clk : Bool
  bitpos : BitVec 3
  txReg : BitVec 8
  state : State
  datO : Bool
  txBusy : Bool
  rx : BitVec 8
  error : Bool

/-- The inputs of a cycle.  The device lets go of a line that is true. -/
structure Cycle where
  reset : Bool
  startTx : Bool
  tx : BitVec 8
  deviceClk : Bool
  deviceDat : Bool

/-!
## The lines
-/

namespace Regs

def driveDat (s : Regs) : Bool :=
  match s.state with
  | .txStart | .tx | .txParity => true
  | _ => false

/-- A line that nobody pulls low reads one. -/
def ps2Clk (i : Cycle) (s : Regs) : Bool :=
  decide (s.state ≠ .inhibit) && i.deviceClk

/-- What the device reads when it lets go of the data. -/
def hostDat (s : Regs) : Bool := if s.driveDat then s.datO else true

def ps2Dat (i : Cycle) (s : Regs) : Bool := s.hostDat && i.deviceDat

/-- The host samples on the negative edge. -/
def doSample (s : Regs) : Bool := s.lastPs2Clk && !s.clkSync.p2

def rxValid (s : Regs) : Bool := decide (s.state = .stop) && s.doSample

def txComplete (s : Regs) : Bool := decide (s.state = .txAck) && s.doSample

/-!
## The registers
-/

def nextState (i : Cycle) (s : Regs) : State :=
  if i.reset then .idle
  else if i.startTx then .inhibit
  else
    match s.state with
    | .idle => if s.doSample && !s.datSync.p2 then .rx else .idle
    | .rx => if s.doSample && decide (s.bitpos = 7#3) then .rxParity else .rx
    | .rxParity => if s.doSample then .stop else .rxParity
    | .stop => if s.doSample then .idle else .stop
    | .inhibit => if s.clkInhibitCount = 0#13 then .txStart else .inhibit
    | .txStart => .tx
    | .tx => if s.doSample && decide (s.bitpos = 7#3) then .txParity else .tx
    | .txParity => if s.doSample then .txStop else .txParity
    | .txStop => if s.doSample then .txAck else .txStop
    | .txAck => if s.doSample then .idle else .txAck

/-- `~^v`. -/
def xnorReduce {n : Nat} (v : BitVec n) : Bool :=
  !(List.range n).foldl (fun parity k => parity ^^ v.getLsbD k) false

def nextDatO (s : Regs) : Bool :=
  match s.state with
  | .txStart => false
  | .tx => if s.doSample then s.txReg.getLsbD s.bitpos.toNat else s.datO
  | .txParity => if s.doSample then xnorReduce s.txReg else s.datO
  | _ => s.datO

def nextTxBusy (i : Cycle) (s : Regs) : Bool :=
  if i.reset then false
  else if i.startTx then true
  else if s.state = .idle then false
  else s.txBusy

def nextClkInhibitCount (i : Cycle) (s : Regs) : BitVec 13 :=
  if i.reset then txClockInhibitReload
  else if s.state = .inhibit then s.clkInhibitCount - 1#13
  else txClockInhibitReload

def nextBitpos (s : Regs) : BitVec 3 :=
  if s.state = .rx ∨ s.state = .tx then
    if s.doSample then s.bitpos + 1#3 else s.bitpos
  else 0#3

/-- The oldest bit goes out at the low end. -/
def nextRx (s : Regs) : BitVec 8 :=
  if s.state = .rx ∧ s.doSample then
    BitVec.ofBool s.datSync.p2 ++ s.rx.extractLsb' 1 7
  else s.rx

def nextError (i : Cycle) (s : Regs) : Bool :=
  if i.reset then false
  else if s.state = .idle then false
  else if s.state = .rxParity ∧ s.doSample then
    xnorReduce (s.rx ++ BitVec.ofBool s.datSync.p2)
  else s.error

end Regs

def step (i : Cycle) (s : Regs) : Regs where
  clkInhibitCount := s.nextClkInhibitCount i
  clkSync := s.clkSync.step i.reset (s.ps2Clk i)
  datSync := s.datSync.step i.reset (s.ps2Dat i)
  lastPs2Clk := if i.reset then false else s.clkSync.p2
  bitpos := s.nextBitpos
  txReg := if i.startTx then i.tx else s.txReg
  state := s.nextState i
  datO := s.nextDatO
  txBusy := s.nextTxBusy i
  rx := s.nextRx
  error := s.nextError i

end PS2Host
end Fpga
end S80x86
