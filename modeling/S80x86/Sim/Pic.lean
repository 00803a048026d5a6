import S80x86.Sim.State
import S80x86.Foundation.Priority
import Mathlib.Data.List.FinRange
import Mathlib.Data.Fin.Basic

/-!
# The simulator's interrupt controller

The device that raises interrupts on the simulated processor, and a board on
which it sits at its port beside other devices.
-/

open Foundation

namespace S80x86
namespace Sim

namespace Pic

inductive State where
  | STATE_IDLE
  | STATE_ICW2
  | STATE_ICW4
  deriving DecidableEq, Repr

inductive CommandReadMode where
  | STATE_READ_IRR
  | STATE_READ_ISR
  deriving DecidableEq, Repr

abbrev Line := Fin 8

def lines : List Line := List.finRange 8

/-- The value of `1 << n` in a byte. -/
def bit (n : Nat) : BitVec 8 := 1#8 <<< n

end Pic

/-- The controller; `failed` records an assertion that failed or a shift
without a result. -/
structure Pic where
  state : Pic.State
  commandReadMode : Pic.CommandReadMode
  vectorAddress : BitVec 8
  mask : BitVec 8
  isr : BitVec 8
  irr : BitVec 8
  failed : Bool
  deriving DecidableEq, Repr

namespace Pic

/-- The interrupt that a request of the devices delivers, if any. -/
def deliverable (p : Pic) : Option Line :=
  Priority.scan (fun k : Line => p.isr.getLsbD k)
    (fun k : Line => p.irr.getLsbD k) lines

def vector (p : Pic) (k : Line) : BitVec 8 :=
  p.vectorAddress + BitVec.ofNat 8 k.val

def raiseIrq (irqNum : Line) (p : Pic) : Pic × Raised :=
  if p.mask.getLsbD irqNum then (p, none)
  else
    let p := { p with irr := p.irr ||| bit irqNum.val }
    (p, p.deliverable.map p.vector)

def intaHandler (irqNum : BitVec 8) (p : Pic) : Pic :=
  if p.vectorAddress ≤ irqNum ∧
      irqNum.toNat - p.vectorAddress.toNat < 32 then
    let n := irqNum.toNat - p.vectorAddress.toNat
    { p with isr := p.isr ||| bit n, irr := p.irr &&& ~~~bit n }
  else { p with failed := true }

def isIcw1 (v : BitVec 8) : Bool := v.getLsbD 4

def isOcw2 (v : BitVec 8) : Bool := v.extractLsb' 3 2 == 0#2

def isOcw3 (v : BitVec 8) : Bool := v &&& 0x98#8 == 0x08#8

/-- An assertion on the side. -/
def assert (c : Bool) (p : Pic) : Pic := { p with failed := p.failed || !c }

def icw1 (v : BitVec 8) (p : Pic) : Pic :=
  { p with state := .STATE_ICW2 }.assert (v &&& 0x0f#8 == 0x3#8)

/-- An end of interrupt, specific or not. -/
def ocw2 (v : BitVec 8) (p : Pic) : Pic :=
  if v >>> 5 = 1#8 then
    match lines.find? fun k : Line => p.isr.getLsbD k with
    | some k => { p with isr := p.isr &&& ~~~bit k.val }
    | none => p
  else if v >>> 5 = 3#8 then
    { p with isr := p.isr &&& ~~~bit (v &&& 0x7#8).toNat }
  else p

def ocw3 (v : BitVec 8) (p : Pic) : Pic :=
  let p := (p.assert (v &&& 0x04#8 == 0#8)).assert (v &&& 0x60#8 == 0#8)
  if v &&& 0x3#8 = 2#8 then { p with commandReadMode := .STATE_READ_IRR }
  else if v &&& 0x3#8 = 3#8 then { p with commandReadMode := .STATE_READ_ISR }
  else p

def writeCommand (v : BitVec 8) (p : Pic) : Pic :=
  if isIcw1 v then p.icw1 v
  else if isOcw2 v then p.ocw2 v
  else if isOcw3 v then p.ocw3 v
  else p

def readCommand (p : Pic) : BitVec 8 :=
  match p.commandReadMode with
  | .STATE_READ_IRR => p.irr
  | .STATE_READ_ISR => p.isr

def writeData (v : BitVec 8) (p : Pic) : Pic :=
  match p.state with
  | .STATE_ICW2 =>
      { p with vectorAddress := v &&& 0xf8#8, state := .STATE_ICW4 }
  | .STATE_ICW4 => { p with state := .STATE_IDLE }.assert (v == 0x01#8)
  | .STATE_IDLE => { p with mask := v }

def write8 (offs : Nat) (v : BitVec 8) (p : Pic) : Pic :=
  if offs = 0 then p.writeCommand v else p.writeData v

def read8 (offs : Nat) (p : Pic) : BitVec 8 :=
  if offs = 0 then p.readCommand else p.mask

def read16 (p : Pic) : BitVec 16 :=
  (p.read8 0).setWidth 16 ||| (p.read8 1).setWidth 16 <<< 8

end Pic

/-!
## The board
-/

/-- A device beside the controller; a call may raise one of its lines. -/
structure LineDevice (W : Type) where
  base : BitVec 16
  read8 : BitVec 16 -> Nat -> W -> BitVec 8 × W × Option Pic.Line
  read16 : BitVec 16 -> W -> BitVec 16 × W × Option Pic.Line
  write8 : BitVec 16 -> Nat -> BitVec 8 -> W -> W × Option Pic.Line
  write16 : BitVec 16 -> BitVec 16 -> W -> W × Option Pic.Line

/-- A write of the guest to the controller and the state it met. -/
structure Pic.Write where
  pic : Pic
  offs : Nat
  value : BitVec 8

/-- The controller and the other devices; `writes` is a record of the guest's
writes to the controller, latest first, that nothing reads. -/
structure Board (W : Type) where
  pic : Pic
  devices : W
  writes : List Pic.Write

namespace Board

variable {W : Type}

def raiseIrq (irqNum : Pic.Line) (b : Board W) : Board W × Raised :=
  let out := b.pic.raiseIrq irqNum
  ({ b with pic := out.1 }, out.2)

/-- The board after a call of another device. -/
def afterCall (b : Board W) (out : W × Option Pic.Line) : Board W × Raised :=
  let b := { b with devices := out.1 }
  match out.2 with
  | some irqNum => b.raiseIrq irqNum
  | none => (b, none)

def ports (d : LineDevice W) : IOPorts (Board W) :=
  { base := d.base
    read8 := fun port offs b =>
      let out := d.read8 port offs b.devices
      (out.1, b.afterCall out.2)
    read16 := fun port b =>
      let out := d.read16 port b.devices
      (out.1, b.afterCall out.2)
    write8 := fun port offs v b => b.afterCall (d.write8 port offs v b.devices)
    write16 := fun port v b => b.afterCall (d.write16 port v b.devices) }

def writePic (offs : Nat) (v : BitVec 8) (b : Board W) : Board W :=
  { b with
    pic := b.pic.write8 offs v
    writes := { pic := b.pic, offs := offs, value := v } :: b.writes }

/-- `IOPorts::write16` writes the two bytes one after the other. -/
def picPorts : IOPorts (Board W) :=
  { base := 0x0020#16
    read8 := fun _ offs b => (b.pic.read8 offs, b, none)
    read16 := fun _ b => (b.pic.read16, b, none)
    write8 := fun _ offs v b => (b.writePic offs v, none)
    write16 := fun _ v b =>
      ((b.writePic 0 (v.setWidth 8)).writePic 1 ((v >>> 8).setWidth 8), none) }

/-- The processor's view of a board with these other devices. -/
def environment (devices : BitVec 16 -> Option (LineDevice W))
    (trapEscape : Bool) : Environment (Board W) :=
  { addressing := .emulator
    io := fun addr =>
      if addr = 0x0020#16 then some picPorts else (devices addr).map ports
    ackInt := fun irqNum b =>
      ({ b with pic := b.pic.intaHandler irqNum }, none)
    trapEscape := trapEscape }

end Board
end Sim
end S80x86
