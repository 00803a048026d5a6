import Mathlib.Logic.Basic

/-!
# Decoded instructions

The record the decoder hands to the microcode, the register and prefix
enumerations, and the interface of the generated opcode table.
-/

namespace S80x86
namespace Rtl

inductive SR where
  | ES
  | CS
  | SS
  | DS
  deriving DecidableEq, Repr

inductive RepPrefix where
  | NONE
  | E
  | NE
  deriving DecidableEq, Repr

structure Instruction where
  invalid : Bool
  length : BitVec 4
  lock : Bool
  rep : RepPrefix
  segment : SR
  hasSegmentOverride : Bool
  hasModrm : Bool
  immediates0 : BitVec 16
  immediates1 : BitVec 16
  displacement : BitVec 16
  modRm : BitVec 8
  opcode : BitVec 8
  deriving DecidableEq, Repr

namespace Instruction

def zero : Instruction :=
  { invalid := false, length := 0#4, lock := false, rep := .NONE
    segment := .ES, hasSegmentOverride := false, hasModrm := false
    immediates0 := 0#16, immediates1 := 0#16, displacement := 0#16
    modRm := 0#8, opcode := 0#8 }

/-- The register field of the ModRM byte. -/
def reg (i : Instruction) : BitVec 3 := i.modRm.extractLsb' 3 3

/-- Add to the length; a carry out of its four bits marks the record invalid. -/
def addLength (i : Instruction) (n : Nat) : Instruction :=
  let sum := (if i.invalid then 16 else 0) + i.length.toNat + n
  { i with
    invalid := decide (sum % 32 ≥ 16)
    length := BitVec.ofNat 4 sum }

end Instruction

/-- The functions of the generated opcode table. -/
structure OpcodeTable where
  insnHasModrm : BitVec 8 -> Bool
  insnImmedCount : BitVec 8 -> BitVec 3 -> BitVec 2
  insnImmedIs8bit : BitVec 8 -> BitVec 3 -> Bool -> Bool

/-- Whether a displacement follows this ModRM byte. -/
def hasDisplacement (mbyte : BitVec 8) : Bool :=
  (mbyte.extractLsb' 0 3 == 0b110#3 && mbyte.extractLsb' 6 2 == 0b00#2) ||
    Bool.xor (mbyte.getLsbD 7) (mbyte.getLsbD 6)

def isPrefix (b : BitVec 8) : Bool :=
  b == 0x26#8 || b == 0x2e#8 || b == 0x36#8 || b == 0x3e#8 || b == 0xf2#8 ||
    b == 0xf3#8 || b == 0xf0#8

/-- Record one byte of the opcode state: a prefix or the opcode itself. -/
def latchOpcode (T : OpcodeTable) (i : Instruction) (b : BitVec 8) :
    Instruction :=
  if b == 0xf0#8 then { i with lock := true }
  else if b == 0xf2#8 then { i with rep := .NE }
  else if b == 0xf3#8 then { i with rep := .E }
  else if b == 0x26#8 then
    { i with hasSegmentOverride := true, segment := .ES }
  else if b == 0x2e#8 then
    { i with hasSegmentOverride := true, segment := .CS }
  else if b == 0x36#8 then
    { i with hasSegmentOverride := true, segment := .SS }
  else if b == 0x3e#8 then
    { i with hasSegmentOverride := true, segment := .DS }
  else { i with opcode := b, hasModrm := T.insnHasModrm b }

end Rtl
end S80x86
