import S80x86.Foundation.Bits

/-!
# What the BIOS works on

The registers an interrupt handler is called with, and the memory that is
reached through a segment and an offset.  The memory keeps the addresses it was
written at.
-/

namespace S80x86
namespace Bios

/-!
## The registers of a caller
-/

namespace Reg

def l (x : BitVec 16) : BitVec 8 := x.extractLsb' 0 8

def h (x : BitVec 16) : BitVec 8 := x.extractLsb' 8 8

/-- `x` with its low byte replaced. -/
def withL (x : BitVec 16) (v : BitVec 8) : BitVec 16 := h x ++ v

/-- `x` with its high byte replaced. -/
def withH (x : BitVec 16) (v : BitVec 8) : BitVec 16 := v ++ l x

@[simp]
theorem l_withL (x : BitVec 16) (v : BitVec 8) : l (withL x v) = v :=
  Foundation.Bits.extractLsb'_low_append (h x) v

@[simp]
theorem h_withL (x : BitVec 16) (v : BitVec 8) : h (withL x v) = h x :=
  Foundation.Bits.extractLsb'_high_append (h x) v

@[simp]
theorem l_withH (x : BitVec 16) (v : BitVec 8) : l (withH x v) = l x :=
  Foundation.Bits.extractLsb'_low_append v (l x)

@[simp]
theorem h_withH (x : BitVec 16) (v : BitVec 8) : h (withH x v) = v :=
  Foundation.Bits.extractLsb'_high_append v (l x)

end Reg

structure CallRegs where
  bx : BitVec 16
  dx : BitVec 16
  cx : BitVec 16
  ax : BitVec 16
  es : BitVec 16
  flags : BitVec 16

def CF : BitVec 16 := 1#16 <<< 0
def ZF : BitVec 16 := 1#16 <<< 6

/-- A flag is set with `|=` and cleared with `&= ~`. -/
theorem or_bit_and_bit (flags : BitVec 16) (i : Nat) :
    (flags ||| 1#16 <<< i) &&& 1#16 <<< i = 1#16 <<< i := by
  ext k hk
  simp only [BitVec.getElem_and, BitVec.getElem_or]
  cases (1#16 <<< i)[k] <;> simp

theorem and_not_bit_and_bit (flags : BitVec 16) (i : Nat) :
    flags &&& ~~~(1#16 <<< i) &&& 1#16 <<< i = 0#16 := by
  ext k hk
  simp only [BitVec.getElem_and, BitVec.getElem_not, BitVec.getElem_zero]
  cases (1#16 <<< i)[k] <;> simp

/-!
## Memory
-/

/-- The bytes at physical addresses, and where bytes were written, the last
address first. -/
structure FarMemory where
  bytes : BitVec 20 -> BitVec 8
  written : List (BitVec 20)

namespace FarMemory

def phys (segment address : BitVec 16) : BitVec 20 :=
  segment.setWidth 20 <<< 4 + address.setWidth 20

def readb (segment address : BitVec 16) (m : FarMemory) : BitVec 8 :=
  m.bytes (phys segment address)

def writeb (segment address : BitVec 16) (val : BitVec 8) (m : FarMemory) :
    FarMemory :=
  { bytes := fun a => if a = phys segment address then val else m.bytes a
    written := phys segment address :: m.written }

def readw (segment address : BitVec 16) (m : FarMemory) : BitVec 16 :=
  m.readb segment (address + 1#16) ++ m.readb segment address

def writew (segment address val : BitVec 16) (m : FarMemory) : FarMemory :=
  (m.writeb segment address (val.extractLsb' 0 8)).writeb segment
    (address + 1#16) (val.extractLsb' 8 8)

theorem phys_inj {segment a b : BitVec 16} :
    phys segment a = phys segment b ↔ a = b := by
  unfold phys
  rw [BitVec.add_right_inj]
  constructor
  · intro h
    apply BitVec.eq_of_toNat_eq
    have hnat := congrArg BitVec.toNat h
    simp only [BitVec.toNat_setWidth] at hnat
    omega
  · rintro rfl
    rfl

theorem readb_writeb (segment a b : BitVec 16) (v : BitVec 8)
    (m : FarMemory) :
    (m.writeb segment a v).readb segment b =
      if b = a then v else m.readb segment b := by
  unfold readb writeb
  simp only [phys_inj]

theorem add_one_ne (a : BitVec 16) : a + 1#16 ≠ a := by
  intro h
  simp at h

@[simp]
theorem readw_writew_same (segment a v : BitVec 16) (m : FarMemory) :
    (m.writew segment a v).readw segment a = v := by
  unfold readw writew
  rw [readb_writeb, if_pos rfl, readb_writeb, if_neg (add_one_ne a).symm,
    readb_writeb, if_pos rfl]
  exact Foundation.Bits.append_halves v

/-- Words that do not overlap. -/
def Apart (a b : BitVec 16) : Prop := b ≠ a ∧ b + 1#16 ≠ a ∧ b ≠ a + 1#16

theorem readw_writew_apart {a b : BitVec 16} (h : Apart a b)
    (segment v : BitVec 16) (m : FarMemory) :
    (m.writew segment a v).readw segment b = m.readw segment b := by
  have hnext : b + 1#16 ≠ a + 1#16 := fun heq => h.1 (by simpa using heq)
  unfold readw writew
  simp only [readb_writeb, if_neg h.1, if_neg h.2.1, if_neg h.2.2,
    if_neg hnext]

end FarMemory

/-! The BIOS data area, with the offsets of its packed fields. -/
namespace Bda

def segment : BitVec 16 := 0x40#16

def keyboardFlags : BitVec 16 := 0x17#16
def kbdBufferHead : BitVec 16 := 0x1a#16
def kbdBufferTail : BitVec 16 := 0x1c#16
def kbdBuffer : BitVec 16 := 0x1e#16
def driveRecalibrationStatus : BitVec 16 := 0x3e#16
def disketteStatus : BitVec 16 := 0x41#16
def cursorOffsets : BitVec 16 := 0x50#16

end Bda

end Bios
end S80x86
