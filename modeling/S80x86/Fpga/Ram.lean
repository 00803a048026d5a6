import S80x86.Foundation.Bits

/-!
# Dual-port RAMs

Both RAMs read synchronously: an address presented in one cycle shows its word
in the next one.  A write through the other port in the same cycle is bypassed.
-/

namespace S80x86
namespace Fpga

structure DPRam (Addr Data : Type) where
  ram : Addr -> Data
  rA : Data
  rB : Data
  bypassAVal : Data
  bypassBVal : Data
  bypassA : Bool
  bypassB : Bool

namespace DPRam

variable {Addr Data : Type}

structure Inputs (Addr Data : Type) where
  addrA : Addr
  wrEnA : Bool
  wdataA : Data
  addrB : Addr
  wrEnB : Bool
  wdataB : Data

def qA (s : DPRam Addr Data) : Data :=
  if s.bypassA then s.bypassAVal else s.rA

variable [DecidableEq Addr]

/-- One clock edge. -/
def step (i : Inputs Addr Data) (s : DPRam Addr Data) : DPRam Addr Data :=
  { ram := fun a =>
      if i.wrEnB = true ∧ a = i.addrB then i.wdataB
      else if i.wrEnA = true ∧ a = i.addrA then i.wdataA
      else s.ram a
    rA := s.ram i.addrA
    rB := s.ram i.addrB
    bypassAVal := i.wdataB
    bypassBVal := i.wdataA
    bypassA := decide (i.addrA = i.addrB) && i.wrEnB
    bypassB := decide (i.addrA = i.addrB) && i.wrEnA }

/-- Without a write of its own, port A shows the new contents. -/
theorem qA_step (i : Inputs Addr Data) (s : DPRam Addr Data)
    (hread : i.wrEnA = false) :
    (step i s).qA = (step i s).ram i.addrA := by
  cases hwrite : i.wrEnB with
  | true =>
      by_cases haddr : i.addrA = i.addrB
      · simp [qA, step, hwrite, haddr]
      · simp [qA, step, hread, haddr]
  | false =>
      simp [qA, step, hread, hwrite]

end DPRam

/-- Replace the enabled bytes of a word. -/
def writeBytes (be : BitVec 2) (old new : BitVec 16) : BitVec 16 :=
  let low :=
    if be.getLsbD 0 then
      Foundation.Bits.setSlice old 0 8 (new.extractLsb' 0 8)
    else old
  if be.getLsbD 1 then
    Foundation.Bits.setSlice low 8 8 (new.extractLsb' 8 8)
  else low

theorem writeBytes_all (old new : BitVec 16) :
    writeBytes 0b11#2 old new = new := by
  have hboth : writeBytes 0b11#2 old new =
      Foundation.Bits.setSlice
        (Foundation.Bits.setSlice old 0 8 (new.extractLsb' 0 8)) 8 8
        (new.extractLsb' 8 8) := rfl
  apply BitVec.eq_of_getLsbD_eq
  intro n hn
  rw [hboth, Foundation.Bits.getLsbD_setSlice, Foundation.Bits.getLsbD_setSlice,
    BitVec.getLsbD_extractLsb', BitVec.getLsbD_extractLsb']
  by_cases hlow : n < 8
  · rw [if_neg (by omega), if_pos (by omega)]
    simp [hlow]
  · have hhigh : n - 8 < 8 ∧ 8 + (n - 8) = n := by
      omega
    rw [if_pos (by omega)]
    simp [hhigh]

structure BlockRam (Addr : Type) where
  ram : Addr -> BitVec 16
  rA : BitVec 16
  rB : BitVec 16
  bypassAVal : BitVec 16
  bypassBVal : BitVec 16
  bypassA : Bool
  bypassB : Bool

namespace BlockRam

variable {Addr : Type}

structure Inputs (Addr : Type) where
  addrA : Addr
  wrEnA : Bool
  beA : BitVec 2
  wdataA : BitVec 16
  addrB : Addr
  wrEnB : Bool
  beB : BitVec 2
  wdataB : BitVec 16

def qA (s : BlockRam Addr) : BitVec 16 :=
  if s.bypassA then s.bypassAVal else s.rA

def qB (s : BlockRam Addr) : BitVec 16 :=
  if s.bypassB then s.bypassBVal else s.rB

variable [DecidableEq Addr]

/-- One clock edge. -/
def step (i : Inputs Addr) (s : BlockRam Addr) : BlockRam Addr :=
  { ram := fun a =>
      if i.wrEnB = true ∧ a = i.addrB then writeBytes i.beB (s.ram a) i.wdataB
      else if i.wrEnA = true ∧ a = i.addrA then
        writeBytes i.beA (s.ram a) i.wdataA
      else s.ram a
    rA := s.ram i.addrA
    rB := s.ram i.addrB
    bypassAVal := i.wdataB
    bypassBVal := i.wdataA
    bypassA := decide (i.addrA = i.addrB) && i.wrEnB
    bypassB := decide (i.addrA = i.addrB) && i.wrEnA }

/-- Without a write of its own, port A shows the new contents. -/
theorem qA_step (i : Inputs Addr) (s : BlockRam Addr)
    (hread : i.wrEnA = false) (hword : i.beB = 0b11#2) :
    (step i s).qA = (step i s).ram i.addrA := by
  cases hwrite : i.wrEnB with
  | true =>
      by_cases haddr : i.addrA = i.addrB
      · simp [qA, step, hwrite, haddr, hword, writeBytes_all]
      · simp [qA, step, hread, haddr]
  | false =>
      simp [qA, step, hread, hwrite]

/-- With no write at all, port B shows the contents. -/
theorem qB_step (i : Inputs Addr) (s : BlockRam Addr)
    (hreadA : i.wrEnA = false) :
    (step i s).qB = s.ram i.addrB := by
  simp [qB, step, hreadA]

end BlockRam
end Fpga
end S80x86
