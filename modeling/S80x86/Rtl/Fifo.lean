import Mathlib.Logic.Basic

/-!
# The FIFO

A ring buffer with a read pointer, a write pointer and a fill count.  The same
module buffers prefetched bytes and decoded instructions.
-/

namespace S80x86
namespace Rtl

namespace Fifo

structure Inputs (α : Type) where
  reset : Bool
  flush : Bool
  wrEn : Bool
  wrData : α
  rdEn : Bool

/-- The parameters of an instance. -/
structure Params where
  depth : Nat
  fullThreshold : Nat
  deriving DecidableEq, Repr

end Fifo

structure Fifo (α : Type) where
  mem : Nat -> α
  rdPtr : Nat
  wrPtr : Nat
  count : Nat

namespace Fifo

variable {α : Type}

def empty (s : Fifo α) : Bool := s.count == 0

def full (p : Params) (s : Fifo α) : Bool := s.count == p.depth

def nearlyFull (p : Params) (s : Fifo α) : Bool :=
  decide (s.count ≥ p.depth - p.fullThreshold)

def rdData (s : Fifo α) : α := s.mem s.rdPtr

/-- The next position in the ring. -/
def advance (p : Params) (ptr : Nat) : Nat :=
  if ptr == p.depth - 1 then 0 else ptr + 1

def nextCount (p : Params) (i : Inputs α) (s : Fifo α) : Nat :=
  if i.reset then 0
  else if i.flush then 0
  else if i.wrEn && !s.full p && i.rdEn && !s.empty then s.count
  else if i.wrEn && !s.full p then s.count + 1
  else if i.rdEn && !s.empty then s.count - 1
  else s.count

/-- One clock edge. -/
def step (p : Params) (i : Inputs α) (s : Fifo α) : Fifo α :=
  { mem :=
      if !i.reset && !i.flush && i.wrEn && !s.full p then
        fun a => if a = s.wrPtr then i.wrData else s.mem a
      else s.mem
    rdPtr :=
      if i.reset then 0
      else if i.flush then 0
      else if i.rdEn && !s.empty then advance p s.rdPtr
      else s.rdPtr
    wrPtr :=
      if i.reset then 0
      else if i.flush then 0
      else if i.wrEn && !s.full p then advance p s.wrPtr
      else s.wrPtr
    count := nextCount p i s }

end Fifo
end Rtl
end S80x86
