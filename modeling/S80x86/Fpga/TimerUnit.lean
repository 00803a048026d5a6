import S80x86.Foundation.Clocked
import Mathlib.Tactic.Ring

/-!
# A channel of the timer

The counter counts the rising edges of `pit_clk`.  Mode 2 lets the output fall
for the last count of each round, mode 3 turns it over once in each round.
-/

open Foundation

namespace S80x86
namespace Fpga
namespace TimerUnit

structure Regs where
  lastPitClk : Bool
  count : BitVec 16
  reload : BitVec 16
  latchedCount : BitVec 16
  rw : BitVec 2
  mode : BitVec 2
  latched : BitVec 2
  reloadLow : BitVec 8
  reloadLowStored : Bool
  accessLow : Bool
  lastGate : Bool
  out : Bool

/-- The inputs of a cycle. -/
structure Cycle where
  reset : Bool
  pitClk : Bool
  reloadIn : BitVec 8
  load : Bool
  rwIn : BitVec 2
  modeIn : BitVec 2
  configure : Bool
  latchCount : Bool
  readCount : Bool
  gate : Bool

namespace Regs

def low (v : BitVec 16) : BitVec 8 := v.extractLsb' 0 8
def high (v : BitVec 16) : BitVec 8 := v.extractLsb' 8 8

def pitClkPosedge (i : Cycle) (s : Regs) : Bool := i.pitClk && !s.lastPitClk

def trigger (i : Cycle) (s : Regs) : Bool := i.gate && !s.lastGate

/-!
## Counting
-/

/-- The reload value without its lowest bit. -/
def evenReload (s : Regs) : BitVec 16 :=
  if s.reload.getLsbD 0 then s.reload - 1#16 else s.reload

/-- `count_rate_gen`: `count` and `out`. -/
def countRateGen (i : Cycle) (s : Regs) : BitVec 16 × Bool :=
  if s.trigger i then (s.evenReload, true)
  else if s.pitClkPosedge i && i.gate then
    (if s.count = 0#16 ∨ s.count = 1#16 then s.evenReload else s.count - 1#16,
      if s.count = 2#16 then !s.out else s.out)
  else (s.count, s.out)

/-- `count_square_wave`. -/
def countSquareWave (i : Cycle) (s : Regs) : BitVec 16 × Bool :=
  if s.trigger i then (s.reload - 1#16, true)
  else
    (if s.pitClkPosedge i && i.gate then
        (if s.count = 0#16 then s.reload else s.count) - 1#16
      else s.count,
      decide (s.count ≠ 1#16))

def nextCount (i : Cycle) (s : Regs) : BitVec 16 × Bool :=
  if i.reset then (0#16, true)
  else
    let (count, out) :=
      if s.mode = 3#2 then s.countRateGen i
      else if s.mode = 2#2 then s.countSquareWave i
      else (s.count, s.out)
    (count, if i.gate then out else true)

/-!
## Latching
-/

def countOut (s : Regs) : BitVec 8 :=
  if s.latched ≠ 0#2 then low s.latchedCount
  else if s.accessLow then low s.count
  else high s.count

/-- `latched_count` and `latched`. -/
def nextLatched (i : Cycle) (s : Regs) : BitVec 16 × BitVec 2 :=
  if i.reset then (0#16, 0#2)
  else if i.latchCount then (s.count, 3#2)
  else if i.readCount && s.rw = 3#2 then
    ((high s.latchedCount).setWidth 16,
      (s.latched.extractLsb' 1 1).setWidth 2)
  else (s.latchedCount, s.latched)

def nextAccessLow (i : Cycle) (s : Regs) : Bool :=
  if i.reset then false
  else if i.load && s.rw = 3#2 then true
  else if i.latchCount then s.rw ≠ 2#2
  else s.accessLow

/-!
## Programming
-/

/-- `rw` and `mode`. -/
def nextMode (i : Cycle) (s : Regs) : BitVec 2 × BitVec 2 :=
  if i.reset then (0#2, 0#2)
  else if i.configure then (i.rwIn, i.modeIn)
  else (s.rw, s.mode)

/-- `reload`, `reload_low` and `reload_low_stored`. -/
def nextReload (i : Cycle) (s : Regs) : BitVec 16 × BitVec 8 × Bool :=
  if i.reset then (0#16, s.reloadLow, false)
  else if i.configure then (0#16, s.reloadLow, false)
  else if i.load then
    if s.rw = 2#2 then
      (i.reloadIn ++ low s.reload, s.reloadLow, s.reloadLowStored)
    else if s.rw = 1#2 then
      (high s.reload ++ i.reloadIn, s.reloadLow, s.reloadLowStored)
    else if s.reloadLowStored then
      (i.reloadIn ++ s.reloadLow, s.reloadLow, false)
    else (s.reload, i.reloadIn, true)
  else (s.reload, s.reloadLow, s.reloadLowStored)

end Regs

def step (i : Cycle) (s : Regs) : Regs where
  lastPitClk := i.pitClk
  count := (s.nextCount i).1
  reload := (s.nextReload i).1
  latchedCount := (s.nextLatched i).1
  rw := (s.nextMode i).1
  mode := (s.nextMode i).2
  latched := (s.nextLatched i).2
  reloadLow := (s.nextReload i).2.1
  reloadLowStored := (s.nextReload i).2.2
  accessLow := s.nextAccessLow i
  lastGate := i.gate
  out := (s.nextCount i).2

end TimerUnit
end Fpga
end S80x86
