import Mathlib.Tactic.Ring
import Mathlib.Data.Nat.Log

/-!
# The timer of the simulator

The simulator's timer counts clock cycles of the processor.  A tick of the
interval timer is a number of cycles that is not whole, kept as a double.
-/

namespace S80x86
namespace Sim

/-!
## Doubles

A double that is not below one is a whole number of `2 ^ 52` and more, divided
by a power of two.
-/

/-- `num / den` to the nearest whole number, ties to even. -/
def roundNearest (num den : Nat) : Nat :=
  let q := num / den
  let r := num % den
  if den < 2 * r ∨ den = 2 * r ∧ q % 2 = 1 then q + 1 else q

/-- The double next to `num / den`, without its fraction. -/
def truncDouble (num den : Nat) : Nat :=
  let k := 52 - Nat.log 2 (num / den)
  roundNearest (num * 2 ^ k) den / 2 ^ k

/-- The double 18.2, times `2 ^ 48`. -/
def refreshRate : Nat := roundNearest (182 * 2 ^ 48) 10

/-- `50000000 / (65536 * 18.2)`, times `2 ^ 47`. -/
def cyclesPerTick : Nat :=
  roundNearest (50000000 * 2 ^ 48 * 2 ^ 47) (65536 * refreshRate)

/-!
## The timer
-/

structure TimerTick where
  access : BitVec 8
  operatingMode : BitVec 8
  count : BitVec 32
  latched : Bool
  latchedVal : BitVec 16
  accessLow : Bool
  reload : BitVec 16
  enabled : Bool

namespace TimerTick

/-- `explicit TimerTick(PIC *pic)`. -/
def initial : TimerTick where
  access := 0#8
  operatingMode := 0#8
  count := 0#32
  latched := false
  latchedVal := 0#16
  accessLow := false
  reload := 0#16
  enabled := false

/-- `count / cycles_per_tick`. -/
def readCounter (t : TimerTick) : BitVec 16 :=
  BitVec.ofNat 16 (truncDouble (t.count.toNat * 2 ^ 47) cyclesPerTick)

def doReload (t : TimerTick) : TimerTick :=
  let ticks := (t.reload.setWidth 32 - 1#32) &&& 0xffff#32
  { t with
    count := BitVec.ofNat 32
      (truncDouble (ticks.toNat * cyclesPerTick) (2 ^ 47)) }

/-- No result stands for `BadTimer`. -/
def writeMode (v : BitVec 8) (t : TimerTick) : Option TimerTick :=
  let channel := v >>> 6
  let access := (v >>> 4) &&& 0x3#8
  let isBcd := v &&& 0x1#8
  if channel ≠ 0#8 then some t
  else
    let operatingMode := (v >>> 1) &&& 0x7#8
    if access ≠ 0#8 ∧ operatingMode ≠ 2#8 ∧ operatingMode ≠ 3#8 then none
    else if isBcd ≠ 0#8 then none
    else
      let t := { t with access := access }
      let t :=
        if access ≠ 0#8 then { t with operatingMode := 2#8, enabled := false }
        else t
      let t := { t with accessLow := access ≠ 2#8 }
      if access = 0#8 ∧ t.latched = false then
        some { t with latchedVal := t.readCounter, latched := true }
      else some t

def writeReload (v : BitVec 8) (t : TimerTick) : TimerTick :=
  if t.accessLow then
    { t with reload := t.reload.extractLsb' 8 8 ++ v, accessLow := false }
  else
    doReload
      { t with reload := v ++ t.reload.extractLsb' 0 8, enabled := true }

def write8 (portNum : BitVec 16) (offs : Nat) (v : BitVec 8) (t : TimerTick) :
    Option TimerTick :=
  if portNum = 2#16 ∧ offs = 1 then t.writeMode v
  else if portNum = 0#16 ∧ offs = 0 then some (t.writeReload v)
  else some t

def read8 (portNum : BitVec 16) (offs : Nat) (t : TimerTick) :
    BitVec 8 × TimerTick :=
  if portNum ≠ 0#16 ∧ offs ≠ 0 then (0#8, t)
  else
    let counterVal := if t.latched then t.latchedVal else t.readCounter
    if t.accessLow then
      (counterVal.extractLsb' 0 8, { t with accessLow := false })
    else (counterVal.extractLsb' 8 8, { t with latched := false })

/-- Whether IRQ 0 is raised, and the timer afterwards. -/
def tick (cycles : BitVec 32) (t : TimerTick) : Bool × TimerTick :=
  if t.enabled = false then (false, t)
  else if t.count.toNat ≤ cycles.toNat then
    if t.operatingMode = 2#8 then (true, t.doReload) else (false, t)
  else (false, { t with count := t.count - cycles })

end TimerTick
end Sim
end S80x86
