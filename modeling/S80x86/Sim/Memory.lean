import Mathlib.Tactic.Ring

/-!
# Emulated memory

Addresses are kept as they are formed, segment and displacement apart, and an
addressing policy says which bytes an access touches.  The emulator's own
policy is `Addressing.emulator`; `Addressing.rtl` is the one of the RTL, where
offsets are 16 bits wide and linear addresses 20.
-/

namespace S80x86
namespace Sim

def memorySize : Nat := 1 * 1024 * 1024

/-- `get_phys_addr(segment, displacement) + plus`. -/
structure PhysAddr where
  segment : BitVec 16
  displacement : Nat
  plus : Nat
  deriving DecidableEq, Repr

def getPhysAddr (segment : BitVec 16) (displacement : Nat) : PhysAddr :=
  { segment := segment, displacement := displacement, plus := 0 }

namespace PhysAddr

def add (p : PhysAddr) (n : Nat) : PhysAddr := { p with plus := p.plus + n }

/-- An address in the interrupt vector table. -/
def vector (n : Nat) : PhysAddr := getPhysAddr 0#16 n

/-- The `phys_addr` the emulator computes. -/
def linear (p : PhysAddr) : Nat :=
  (p.segment.toNat * 16 + p.displacement) % memorySize + p.plus

end PhysAddr

/-- The types memory is read and written with. -/
inductive AccessType where
  | uint8_t
  | uint16_t
  | uint32_t
  deriving DecidableEq, Repr

def AccessType.sizeof : AccessType -> Nat
  | uint8_t => 1
  | uint16_t => 2
  | uint32_t => 4

/-- One call of `Memory::read` or `Memory::write`; the mark `code` is only for
telling the reads of `fetch_byte` apart. -/
structure Access where
  addr : PhysAddr
  type : AccessType
  write : Bool
  code : Bool := false
  deriving DecidableEq, Repr

def Access.size (a : Access) : Nat := a.type.sizeof

/-- The addresses of the bytes of an access, or `none` for a failed assertion. -/
abbrev Addressing := Access -> Option (List (BitVec 20))

namespace Addressing

def emulator : Addressing := fun a =>
  if a.addr.linear + a.size ≤ memorySize then
    some ((List.range a.size).map fun i => BitVec.ofNat 20 (a.addr.linear + i))
  else none

/-- Byte `i` of an access of the RTL: a double word is read as two words. -/
def rtlByte (a : Access) (i : Nat) : BitVec 20 :=
  let offset := (a.addr.displacement + a.addr.plus + i / 2 * 2) % 2 ^ 16
  BitVec.ofNat 20 (a.addr.segment.toNat * 16 + offset + i % 2)

def rtl : Addressing := fun a => some ((List.range a.size).map (rtlByte a))

/-- Single bytes are where the emulator looks for them. -/
def LinearBytes (p : Addressing) : Prop :=
  forall (addr : PhysAddr) (write code : Bool), addr.plus = 0 ->
    p { addr := addr, type := .uint8_t, write := write, code := code } =
      some [BitVec.ofNat 20 addr.linear]

theorem linearBytes_emulator : LinearBytes emulator := by
  intro addr write code hplus
  have hlinear : addr.linear + 1 ≤ memorySize := by
    unfold PhysAddr.linear
    rw [hplus]
    exact Nat.mod_lt _ (by decide)
  simp only [emulator, Access.size, AccessType.sizeof, hlinear, if_true]
  rfl

end Addressing

structure Memory where
  mem : BitVec 20 -> BitVec 8
  written : Bool

namespace Memory

def read (m : Memory) (addr : BitVec 20) : BitVec 8 := m.mem addr

def write (m : Memory) (addr : BitVec 20) (val : BitVec 8) : Memory :=
  { mem := fun a => if a = addr then val else m.mem a, written := true }

end Memory
end Sim
end S80x86
