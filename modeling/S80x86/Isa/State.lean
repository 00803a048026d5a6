import Mathlib.Tactic.Simps.Basic
import S80x86.Rtl.MicroEval

/-!
# The state a program sees

Registers, flags and memory without anything of the machine that holds them,
and the steps from which instructions are put together.
-/

namespace S80x86
namespace Isa

open Rtl (SR)
open Rtl.GPR

@[ext] structure State where
  gprs : Rtl.Gprs
  segments : SR -> BitVec 16
  flags : BitVec 16
  ip : BitVec 16
  mem : Rtl.Memory

/-- The flags of a mask replaced by the ones of a value. -/
def withFlags (mask v flags : BitVec 16) : BitVec 16 :=
  (flags &&& ~~~mask) ||| (v &&& mask)

/-- Only the flags of the mask matter. -/
theorem withFlags_congr {mask x y flags : BitVec 16}
    (h : x &&& mask = y &&& mask) :
    withFlags mask x flags = withFlags mask y flags := by
  unfold withFlags
  rw [h]

namespace State

variable (s : State)

/-!
## Registers
-/

@[simps -fullyApplied] def setWord (r : BitVec 3) (v : BitVec 16) : State :=
  { s with gprs := s.gprs.set r v }

/-- A byte register takes the low byte of the value. -/
@[simps -fullyApplied]
def setReg (is8Bit : Bool) (r : BitVec 3) (v : BitVec 16) : State :=
  { s with gprs := s.gprs.write is8Bit r v }

@[simps -fullyApplied] def setSegment (n : SR) (v : BitVec 16) : State :=
  { s with segments := Rtl.SegmentRegisterFile.set s.segments n v }

@[simps -fullyApplied] def setFlags (mask v : BitVec 16) : State :=
  { s with flags := withFlags mask v s.flags }

@[simps -fullyApplied] def goto (ip : BitVec 16) : State := { s with ip := ip }

def flag (i : Nat) : Bool := s.flags.getLsbD i

/-!
## The stack
-/

/-- The word on the stack at some bytes above its top. -/
def above (n : BitVec 16) : BitVec 16 :=
  Rtl.Machine.loadWord s.mem (s.segments .SS) (s.gprs SP + n)

def top : BitVec 16 :=
  Rtl.Machine.loadWord s.mem (s.segments .SS) (s.gprs SP)

@[simps -fullyApplied] def drop (n : BitVec 16) : State :=
  { s with gprs := s.gprs.set SP (s.gprs SP + n) }

@[simps -fullyApplied] def push (v : BitVec 16) : State :=
  { s with
    gprs := s.gprs.set SP (s.gprs SP - 2#16)
    mem :=
      Rtl.Machine.storeWord s.mem (s.segments .SS) (s.gprs SP - 2#16) v }

end State
end Isa
end S80x86
