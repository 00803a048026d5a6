import S80x86.Foundation.Bits
import S80x86.Foundation.Clocked
import Mathlib.Data.Nat.Log

/-!
# The UART

Two counters divide the clock, one for the bits of the transmitter and one for
the sixteen samples that the receiver takes of each bit.  The two periods are
rounded down separately, so sixteen samples are not one bit.
-/

open Foundation

namespace S80x86
namespace Fpga

namespace BaudRateGen

def rxAccMax (clkFreq : Nat) : Nat := clkFreq / (115200 * 16)
def txAccMax (clkFreq : Nat) : Nat := clkFreq / 115200
def rxAccWidth (clkFreq : Nat) : Nat := Nat.clog 2 (rxAccMax clkFreq)
def txAccWidth (clkFreq : Nat) : Nat := Nat.clog 2 (txAccMax clkFreq)

structure Regs where
  rxAcc : Nat
  txAcc : Nat

/-- An accumulator of this width, with the maximum cut to the width. -/
def nextAcc (max width acc : Nat) : Nat :=
  if acc = max % 2 ^ width then 0 else (acc + 1) % 2 ^ width

def rxclkEn (s : Regs) : Bool := decide (s.rxAcc = 0)
def txclkEn (s : Regs) : Bool := decide (s.txAcc = 0)

def step (clkFreq : Nat) (reset : Bool) (s : Regs) : Regs where
  rxAcc :=
    if reset then 0 else nextAcc (rxAccMax clkFreq) (rxAccWidth clkFreq) s.rxAcc
  txAcc :=
    if reset then 0 else nextAcc (txAccMax clkFreq) (txAccWidth clkFreq) s.txAcc

theorem nextAcc_eq {max width acc : Nat} (hfit : max < 2 ^ width)
    (hacc : acc ≤ max) : nextAcc max width acc = (acc + 1) % (max + 1) := by
  rw [nextAcc, Nat.mod_eq_of_lt hfit]
  by_cases h : acc = max
  · rw [if_pos h, h, Nat.mod_self]
  · have hless : acc + 1 < max + 1 := by omega
    rw [if_neg h, Nat.mod_eq_of_lt hless,
      Nat.mod_eq_of_lt (Nat.lt_of_le_of_lt (Nat.lt_succ_iff.mp hless) hfit)]

end BaudRateGen

namespace Transmitter

inductive State where
  | idle
  | start
  | data
  | stop
  deriving DecidableEq

structure Regs where
  data : BitVec 8
  bitpos : BitVec 3
  state : State
  tx : Bool

def resetRegs : Regs where
  data := 0#8
  bitpos := 0#3
  state := .idle
  tx := true

def step (reset clken : Bool) (din : BitVec 8) (wrEn : Bool) (s : Regs) :
    Regs :=
  if reset then resetRegs
  else
    match s.state with
    | .idle =>
        if wrEn then { s with state := .start, data := din, bitpos := 0#3 }
        else s
    | .start => if clken then { s with tx := false, state := .data } else s
    | .data =>
        if clken then
          { s with
            state := if s.bitpos = 7#3 then .stop else .data
            bitpos := if s.bitpos = 7#3 then s.bitpos else s.bitpos + 1#3
            tx := s.data.getLsbD s.bitpos.toNat }
        else s
    | .stop => if clken then { s with tx := true, state := .idle } else s

def txBusy (s : Regs) : Bool := decide (s.state ≠ .idle)

end Transmitter

namespace Receiver

inductive State where
  | start
  | data
  | stop
  deriving DecidableEq

structure Regs where
  state : State
  sample : BitVec 4
  bitpos : BitVec 4
  scratch : BitVec 8
  rdy : Bool
  data : BitVec 8

/-- The data register has no reset. -/
def resetRegs (s : Regs) : Regs where
  state := .start
  sample := 0#4
  bitpos := 0#4
  scratch := 0#8
  rdy := false
  data := s.data

/-- The end of the stop bit, or a low line in its second half. -/
def stopEnds (rx : Bool) (s : Regs) : Bool :=
  decide (s.sample = 15#4) || (decide (8 ≤ s.sample.toNat) && !rx)

/-- The registers after a sample. -/
def sampled (rx : Bool) (s : Regs) : Regs :=
  match s.state with
  | .start =>
      if s.sample = 15#4 then
        { s with state := .data, bitpos := 0#4, sample := 0#4, scratch := 0#8 }
      else if !rx || decide (s.sample ≠ 0#4) then
        { s with sample := s.sample + 1#4 }
      else s
  | .data =>
      { s with
        sample := s.sample + 1#4
        scratch :=
          if s.sample = 8#4 then
            Bits.setSlice s.scratch (s.bitpos.extractLsb' 0 3).toNat 1
              (BitVec.ofBool rx)
          else s.scratch
        bitpos := if s.sample = 8#4 then s.bitpos + 1#4 else s.bitpos
        state :=
          if s.bitpos = 8#4 ∧ s.sample = 15#4 then .stop else .data }
  | .stop =>
      if stopEnds rx s then
        { s with state := .start, data := s.scratch, rdy := true,
                 sample := 0#4 }
      else { s with sample := s.sample + 1#4 }

def step (reset clken rx rdyClr : Bool) (s : Regs) : Regs :=
  if reset then resetRegs s
  else
    let cleared := if rdyClr then { s with rdy := false } else s
    if clken then sampled rx cleared else cleared

/-- A byte is complete in this cycle. -/
def completes (clken rx : Bool) (s : Regs) : Bool :=
  clken && decide (s.state = .stop) && stopEnds rx s

end Receiver

namespace Uart

structure Regs where
  baud : BaudRateGen.Regs
  transmitter : Transmitter.Regs
  receiver : Receiver.Regs

structure Cycle where
  reset : Bool
  din : BitVec 8
  wrEn : Bool
  rx : Bool
  rdyClr : Bool

def step (clkFreq : Nat) (i : Cycle) (s : Regs) : Regs where
  baud := BaudRateGen.step clkFreq i.reset s.baud
  transmitter :=
    Transmitter.step i.reset (BaudRateGen.txclkEn s.baud) i.din i.wrEn
      s.transmitter
  receiver :=
    Receiver.step i.reset (BaudRateGen.rxclkEn s.baud) i.rx i.rdyClr s.receiver

/-- The line out is the line in. -/
def wired (clkFreq : Nat) (i : Cycle) (s : Regs) : Regs :=
  step clkFreq { i with rx := s.transmitter.tx } s

end Uart
end Fpga
end S80x86
