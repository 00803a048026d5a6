import Mathlib.Data.Nat.Log
import Mathlib.Tactic.Ring

/-!
# The SDRAM controller

The state machine between a host that holds one request at a time and a device
of four banks, and what the device makes of the commands on its pins.
-/

namespace S80x86
namespace Fpga

/-- The sizes that the controller is generated for. -/
inductive SdramSize where
  | MB32
  | MB64
  deriving DecidableEq, Repr

/-- The parameters of the controller. -/
structure SdramConfig where
  size : SdramSize
  clkf : Nat
  deriving DecidableEq, Repr

namespace SdramConfig

variable (p : SdramConfig)

def nsPerClk : Nat := 1000000000 / p.clkf

def tReset : Nat := 100000 / p.nsPerClk

def tRC : Nat := 8

def tRP : Nat := 2

def tMRD : Nat := 2

def tRCD : Nat := 2

def cas : Nat := 2

def tRef : Nat := 64 * 1000000 / p.nsPerClk / 8192

def maxCmdPeriod : Nat := tRCD + tRP + 1

def refreshCounterWidth : Nat := Nat.clog 2 p.tRef

def timecWidth : Nat := Nat.clog 2 p.tReset

end SdramConfig

/-- A counter that stops at its maximum. -/
def Counter.step (countWidth countMax : Nat) (reset : Bool) (count : Nat) :
    Nat :=
  if reset then 0
  else if count != countMax % 2 ^ countWidth then (count + 1) % 2 ^ countWidth
  else count

inductive SdramCommand where
  | NOP
  | BST
  | READ
  | WRITE
  | ACT
  | PRE
  | REF
  | MRS
  deriving DecidableEq, Repr

inductive SdramState where
  | RESET
  | RESET_PCH
  | RESET_REF1
  | RESET_REF2
  | MRS
  | IDLE
  | ACT
  | READ
  | WRITE
  | PCH
  | AUTOREF
  deriving DecidableEq, Repr

/-- What the host drives; the address is one of 16-bit words. -/
structure SdramHost where
  dataMAccess : Bool
  cs : Bool
  addr : BitVec 25
  wdata : BitVec 16
  wrEn : Bool
  bytesel : BitVec 2
  deriving DecidableEq, Repr

namespace SdramHost

variable (p : SdramConfig) (h : SdramHost)

/-- The controller is addressed. -/
def requests : Bool := h.cs && h.dataMAccess

def banksel : BitVec 2 :=
  match p.size with
  | .MB32 => h.addr.extractLsb' 9 2
  | .MB64 => h.addr.extractLsb' 10 2

def rowsel : BitVec 13 :=
  match p.size with
  | .MB32 => h.addr.extractLsb' 11 13
  | .MB64 => h.addr.extractLsb' 12 13

def col : BitVec 13 :=
  match p.size with
  | .MB32 => (h.addr.extractLsb' 0 9).setWidth 13
  | .MB64 => (h.addr.extractLsb' 0 10).setWidth 13

end SdramHost

structure SdramController where
  state : SdramState
  timec : Nat
  refreshCount : Nat
  cmd : SdramCommand
  sAddr : BitVec 13
  sBanksel : BitVec 2
  oe : Bool
  outdata : BitVec 16
  outbytesel : BitVec 2
  hRdata : BitVec 16
  hCompl : Bool
  hConfigDone : Bool
  rowIsOpen : BitVec 2 -> Bool
  openRow : BitVec 2 -> BitVec 13

namespace SdramController

open SdramConfig

/-- What a reset leaves; the registers without one keep what they held. -/
def reset (s : SdramController) : SdramController :=
  { s with
    state := .RESET
    timec := 0
    refreshCount := 0
    cmd := .NOP
    sAddr := 0#13
    sBanksel := 0#2
    oe := false
    hRdata := 0#16
    hCompl := false
    hConfigDone := false
    rowIsOpen := fun _ => false }

variable (p : SdramConfig) (h : SdramHost) (s : SdramController)

def autorefreshPending : Bool :=
  s.refreshCount + maxCmdPeriod == p.tRef % 2 ^ p.refreshCounterWidth

/-- Precharge all banks, or one. -/
def prechargeAll : BitVec 13 := 0b0010000000000#13

def nextState : SdramState :=
  match s.state with
  | .RESET =>
      if s.timec + 1 = p.tReset % 2 ^ p.timecWidth then .RESET_PCH else .RESET
  | .RESET_PCH => if s.timec = tRP - 1 then .RESET_REF1 else .RESET_PCH
  | .RESET_REF1 => if s.timec = tRC - 1 then .RESET_REF2 else .RESET_REF1
  | .RESET_REF2 => if s.timec = tRC - 1 then .MRS else .RESET_REF2
  | .MRS => if s.timec = tMRD - 1 then .IDLE else .MRS
  | .IDLE =>
      if !s.hCompl && s.autorefreshPending p then .PCH
      else if !s.hCompl && h.requests then
        if s.rowIsOpen (h.banksel p) &&
            s.openRow (h.banksel p) == h.rowsel p then
          if h.wrEn then .WRITE else .READ
        else if s.rowIsOpen (h.banksel p) &&
            s.openRow (h.banksel p) != h.rowsel p then .PCH
        else .ACT
      else .IDLE
  | .ACT =>
      if s.timec = tRCD - 1 then if h.wrEn then .WRITE else .READ else .ACT
  | .WRITE => if s.timec = tRP then .IDLE else .WRITE
  | .READ => if s.timec = SdramConfig.cas then .IDLE else .READ
  | .PCH =>
      if s.timec = tRP - 1 then
        if s.sAddr.getLsbD 10 then .AUTOREF else .IDLE
      else .PCH
  | .AUTOREF => if s.timec = tRC - 1 then .IDLE else .AUTOREF

def changes : Bool := s.state != s.nextState p h

/-- The command for a state that is entered. -/
def command : SdramState -> SdramCommand
  | .RESET => .NOP
  | .RESET_PCH => .PRE
  | .RESET_REF1 => .REF
  | .RESET_REF2 => .REF
  | .MRS => .MRS
  | .IDLE => .NOP
  | .ACT => .ACT
  | .READ => .READ
  | .WRITE => .WRITE
  | .PCH => .PRE
  | .AUTOREF => .REF

def commandAddr : BitVec 13 :=
  match s.nextState p h with
  | .RESET_PCH => prechargeAll
  | .MRS => 0b0001000100000#13
  | .ACT => h.rowsel p
  | .WRITE => h.col p
  | .READ => h.col p
  | .PCH => if s.autorefreshPending p then prechargeAll else 0#13
  | _ => s.sAddr

def commandBanksel : BitVec 2 :=
  match s.nextState p h with
  | .RESET_PCH => 3#2
  | .MRS => 0#2
  | .ACT => h.banksel p
  | .WRITE => h.banksel p
  | .READ => h.banksel p
  | .PCH => h.banksel p
  | _ => s.sBanksel

def nextOe : Bool :=
  match s.nextState p h with
  | .IDLE => false
  | .WRITE => true
  | _ => s.oe

def nextRowIsOpen : BitVec 2 -> Bool :=
  match s.state with
  | .ACT => fun b => if b = h.banksel p then true else s.rowIsOpen b
  | .PCH => fun b => if b = h.banksel p then false else s.rowIsOpen b
  | .AUTOREF => fun _ => false
  | _ => s.rowIsOpen

def nextOpenRow : BitVec 2 -> BitVec 13 :=
  match s.state with
  | .ACT => fun b => if b = h.banksel p then h.rowsel p else s.openRow b
  | _ => s.openRow

/-- The last cycle of a read or of a write. -/
def finishes : Bool :=
  (s.state == .READ && s.timec == SdramConfig.cas) ||
    (s.state == .WRITE && s.timec == tRP)

/-- One clock edge; `sData` is what the device drives. -/
def step (sData : BitVec 16) : SdramController :=
  { state := s.nextState p h
    timec := Counter.step p.timecWidth p.tReset (s.changes p h) s.timec
    refreshCount := Counter.step p.refreshCounterWidth
      (p.tRef - maxCmdPeriod)
      (s.state == .AUTOREF && s.timec == tRC - 1) s.refreshCount
    cmd := if s.changes p h then command (s.nextState p h) else .NOP
    sAddr := if s.changes p h then s.commandAddr p h else s.sAddr
    sBanksel := if s.changes p h then s.commandBanksel p h else s.sBanksel
    oe := if s.changes p h then s.nextOe p h else s.oe
    outdata := if s.state == .IDLE then h.wdata else s.outdata
    outbytesel :=
      if s.state == .IDLE then if h.wrEn then ~~~h.bytesel else 0#2
      else s.outbytesel
    hRdata :=
      if s.state == .READ && s.timec == SdramConfig.cas then sData else 0#16
    hCompl := s.finishes
    hConfigDone := s.state == .IDLE || s.hConfigDone
    rowIsOpen := s.nextRowIsOpen p h
    openRow := s.nextOpenRow p h }

end SdramController

/-!
## The device
-/

/-- The row that is open in each bank of the device. -/
abbrev SdramRows := BitVec 2 -> Option (BitVec 13)

namespace SdramRows

/-- What a command does to the rows. -/
def step (cmd : SdramCommand) (addr : BitVec 13) (banksel : BitVec 2)
    (rows : SdramRows) : SdramRows :=
  match cmd with
  | .ACT => fun b => if b = banksel then some addr else rows b
  | .PRE => fun b =>
      if addr.getLsbD 10 || b == banksel then none else rows b
  | _ => rows

def Precharged (rows : SdramRows) : Prop := forall b, rows b = none

end SdramRows

/-- The controller with the device behind it. -/
structure SdramSystem where
  controller : SdramController
  rows : SdramRows

namespace SdramSystem

/-- What one cycle of the environment brings. -/
structure Input where
  host : SdramHost
  sData : BitVec 16

def step (p : SdramConfig) (i : Input) (s : SdramSystem) : SdramSystem :=
  { controller := s.controller.step p i.host i.sData
    rows := s.rows.step s.controller.cmd s.controller.sAddr
      s.controller.sBanksel }

end SdramSystem
end Fpga
end S80x86
