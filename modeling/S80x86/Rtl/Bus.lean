import S80x86.Foundation.Bits

/-!
# The memory behind the buses

The core addresses one megabyte of bytes through 16-bit words with one enable
for each byte.  This module fixes the memory, the words a bus sees and the
linear addresses that segments and offsets form.
-/

namespace S80x86
namespace Rtl

/-- The bytes of the physical address space. -/
abbrev Memory := BitVec 20 -> BitVec 8

namespace Bus

/-- A segment and an offset, wrapped at one megabyte. -/
def linear (segment offset : BitVec 16) : BitVec 20 :=
  segment.setWidth 20 <<< 4 + offset.setWidth 20

/-- The word that holds the byte at a segment and an offset. -/
def wordAddress (segment offset : BitVec 16) : BitVec 19 :=
  segment.setWidth 19 <<< 3 + (offset.extractLsb' 1 15).setWidth 19

def lowByteAddress (a : BitVec 19) : BitVec 20 :=
  a.setWidth 20 <<< 1

def highByteAddress (a : BitVec 19) : BitVec 20 :=
  a.setWidth 20 <<< 1 + 1#20

def readWord (mem : Memory) (a : BitVec 19) : BitVec 16 :=
  (mem (highByteAddress a)).setWidth 16 <<< 8 |||
    (mem (lowByteAddress a)).setWidth 16

theorem readWord_low (mem : Memory) (a : BitVec 19) :
    (readWord mem a).extractLsb' 0 8 = mem (lowByteAddress a) := by
  unfold readWord
  apply BitVec.eq_of_getLsbD_eq
  intro k hk
  simp [hk]
  omega

theorem readWord_high (mem : Memory) (a : BitVec 19) :
    (readWord mem a).extractLsb' 8 8 = mem (highByteAddress a) := by
  unfold readWord
  apply BitVec.eq_of_getLsbD_eq
  intro k hk
  have hword : 8 + k < 16 ∧ k < 16 := by omega
  simp [hk, hword]

theorem linear_toNat (segment offset : BitVec 16) :
    (linear segment offset).toNat =
      (segment.toNat * 16 + offset.toNat) % 2 ^ 20 := by
  simp [linear, Nat.shiftLeft_eq]

theorem wordAddress_toNat (segment offset : BitVec 16) :
    (wordAddress segment offset).toNat =
      (segment.toNat * 8 + offset.toNat / 2) % 2 ^ 19 := by
  have hs := segment.isLt
  have ho := offset.isLt
  simp [wordAddress, Nat.shiftLeft_eq, Nat.shiftRight_eq_div_pow]
  omega

theorem lowByteAddress_toNat (a : BitVec 19) :
    (lowByteAddress a).toNat = 2 * a.toNat := by
  have ha := a.isLt
  simp [lowByteAddress, Nat.shiftLeft_eq]
  omega

theorem highByteAddress_toNat (a : BitVec 19) :
    (highByteAddress a).toNat = 2 * a.toNat + 1 := by
  have ha := a.isLt
  simp [highByteAddress, Nat.shiftLeft_eq]
  omega

theorem getLsbD_zero_iff_odd (x : BitVec 16) :
    x.getLsbD 0 = decide (x.toNat % 2 = 1) := by
  rw [BitVec.getLsbD, Nat.testBit_zero]

theorem lowByteAddress_wordAddress {segment offset : BitVec 16}
    (h : offset.getLsbD 0 = false) :
    lowByteAddress (wordAddress segment offset) = linear segment offset := by
  rw [getLsbD_zero_iff_odd] at h
  have hodd : ¬ offset.toNat % 2 = 1 := by simpa using h
  apply BitVec.eq_of_toNat_eq
  rw [lowByteAddress_toNat, wordAddress_toNat, linear_toNat]
  omega

theorem highByteAddress_wordAddress {segment offset : BitVec 16}
    (h : offset.getLsbD 0 = true) :
    highByteAddress (wordAddress segment offset) = linear segment offset := by
  rw [getLsbD_zero_iff_odd] at h
  have hodd : offset.toNat % 2 = 1 := by simpa using h
  apply BitVec.eq_of_toNat_eq
  rw [highByteAddress_toNat, wordAddress_toNat, linear_toNat]
  omega

theorem highByteAddress_wordAddress_succ {segment offset : BitVec 16}
    (h : offset.getLsbD 0 = false) :
    highByteAddress (wordAddress segment offset) =
      linear segment (offset + 1#16) := by
  rw [getLsbD_zero_iff_odd] at h
  have hodd : ¬ offset.toNat % 2 = 1 := by simpa using h
  have ho := offset.isLt
  apply BitVec.eq_of_toNat_eq
  rw [highByteAddress_toNat, wordAddress_toNat, linear_toNat]
  simp
  omega

theorem linear_succ_toNat (segment offset : BitVec 16) :
    (linear segment offset + 1#20).toNat =
      (segment.toNat * 16 + offset.toNat + 1) % 2 ^ 20 := by
  rw [BitVec.toNat_add, linear_toNat]
  simp

theorem highByteAddress_of_even {segment offset : BitVec 16}
    (h : offset.getLsbD 0 = false) :
    highByteAddress (wordAddress segment offset) =
      linear segment offset + 1#20 := by
  rw [getLsbD_zero_iff_odd] at h
  have hodd : ¬ offset.toNat % 2 = 1 := by simpa using h
  apply BitVec.eq_of_toNat_eq
  rw [highByteAddress_toNat, wordAddress_toNat, linear_succ_toNat]
  omega

theorem lowByteAddress_of_odd {segment offset : BitVec 16}
    (h : offset.getLsbD 0 = true) :
    lowByteAddress (wordAddress segment offset + 1#19) =
      linear segment offset + 1#20 := by
  rw [getLsbD_zero_iff_odd] at h
  have hodd : offset.toNat % 2 = 1 := by simpa using h
  apply BitVec.eq_of_toNat_eq
  rw [lowByteAddress_toNat, BitVec.toNat_add, wordAddress_toNat,
    linear_succ_toNat]
  simp
  omega

end Bus
end Rtl
end S80x86
