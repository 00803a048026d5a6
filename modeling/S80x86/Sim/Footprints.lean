import S80x86.Foundation.Events
import S80x86.Sim.DivideErrors
import S80x86.Sim.StackFrames
import S80x86.Sim.StringRuns

/-!
# What instructions touch

The data that every handler reads and writes, as places computed from the
state in which it starts, with the offsets as the emulator forms them.
-/

namespace S80x86
namespace Sim

open Foundation.Effect
open Rtl.Machine (Division)

variable {W : Type}

/-- Where an access starts and what it is read or written as. -/
structure Place where
  addr : PhysAddr
  type : AccessType
  deriving DecidableEq, Repr

def OperandWidth.accessType : OperandWidth -> AccessType
  | OP_WIDTH_8 => .uint8_t
  | OP_WIDTH_16 => .uint16_t

namespace Place

/-- An operand of a width. -/
def operand (w : OperandWidth) (p : PhysAddr) : Place :=
  { addr := p, type := w.accessType }

/-- A word at a 16-bit offset. -/
def word (segment offset : BitVec 16) : Place :=
  operand .OP_WIDTH_16 (getPhysAddr segment offset.toNat)

end Place

/-- The place of an access to data. -/
def Access.place (a : Access) : Option Place :=
  if a.code then none else some { addr := a.addr, type := a.type }

/-!
## Parts of a footprint
-/

/-- The places of a set if a condition holds. -/
def placesIf (c : Prop) (S : Set Place) : Set Place := { x | c ∧ x ∈ S }

namespace RegisterFile

variable (r : RegisterFile)

/-- The words that `n` pushes write. -/
def pushes (n : Nat) : Set Place :=
  { x | exists k, k < n ∧ x = Place.word r.ss (below r.sp k) }

/-- The words that `n` pops read. -/
def pops (n : Nat) : Set Place :=
  { x | exists k, k < n ∧ x = Place.word r.ss (above r.sp k) }

/-- The words of the display below `BP`. -/
def display (n : Nat) : Set Place :=
  { x | exists k, k < n ∧ x = Place.word r.ss (below r.bp k) }

/-- The frame of an interrupt and its vector. -/
def interrupt (vector : Nat) : Set Place :=
  r.pushes 3 ∪
    {Place.operand .OP_WIDTH_16 (.vector (vector + 2)),
      Place.operand .OP_WIDTH_16 (.vector vector)}

end RegisterFile

namespace Emulator

variable (s : Emulator W)

/-- A memory operand. -/
def operandPlaces (w : OperandWidth) : Set Place :=
  placesIf (s.modrmDecoder.rmType = .OP_MEM) {Place.operand w s.operandAddr}

/-- The two words of a far pointer or of a pair of bounds. -/
def pairPlaces : Set Place :=
  placesIf (s.modrmDecoder.rmType = .OP_MEM)
    {Place.operand .OP_WIDTH_16 s.operandAddr,
      Place.operand .OP_WIDTH_16 (s.operandAddr.add 2)}

/-- A far pointer read at once. -/
def dwordPlaces : Set Place :=
  placesIf (s.modrmDecoder.rmType = .OP_MEM)
    {{ addr := s.operandAddr, type := .uint32_t }}

/-- The register is outside the bounds that the operand holds. -/
def OutOfBounds : Prop :=
  let lower := s.mem.word s.operandAddr.linear
  let upper := s.mem.word (s.operandAddr.add 2).linear
  let v := s.registers.get s.modrmDecoder.reg
  ¬(lower.sle v && v.sle upper)

/-- The divide error is due, and the host has a quotient. -/
def Overflows (v : Division) : Prop := ¬Undefined v s ∧ Raises v s

/-- The step `k` of a string instruction is made. -/
def Repeats (ends : Nat -> Bool) (k : Nat) : Prop :=
  if s.hasRepPrefix then
    k < s.registers.cx.toNat ∧ forall i, i < k -> ends i = false
  else k = 0

/-- The source element of step `k`, in a segment with this base. -/
def sourcePlace (w : OperandWidth) (base : BitVec 16) (k : Nat) : Place :=
  Place.operand w (getPhysAddr base
    (s.registers.si + BitVec.ofNat 16 k * s.registers.stride w).toNat)

/-- The destination element of step `k`. -/
def destinationPlace (w : OperandWidth) (k : Nat) : Place :=
  Place.operand w (getPhysAddr s.registers.es
    (s.registers.di + BitVec.ofNat 16 k * s.registers.stride w).toNat)

/-- The elements of step `k`: one at `SI` in a segment with a base, if there is
one, and one at `DI`. -/
def elementPlaces (w : OperandWidth) (base : Option (BitVec 16))
    (destination : Bool) (k : Nat) : Set Place :=
  { x | (exists b, base = some b ∧ x = s.sourcePlace w b k) ∨
    destination = true ∧ x = s.destinationPlace w k }

/-- The elements of all steps that are made. -/
def stringPlaces (w : OperandWidth) (base : Option (BitVec 16))
    (destination : Bool) (ends : Nat -> Bool) : Set Place :=
  { x | exists k, s.Repeats ends k ∧ x ∈ s.elementPlaces w base destination k }

end Emulator

/-!
## Footprints
-/

/-- The places that code touches, from the state in which it starts. -/
abbrev Footprint (W : Type) := Environment W -> Emulator W -> Set Place

namespace Footprint

def nothing : Footprint W := fun _ _ => ∅

def operand (w : OperandWidth) : Footprint W := fun _ e =>
  (e.decodedFor w).operandPlaces w

/-- `MOV` of an immediate, for register field 0 only. -/
def immediateMove (w : OperandWidth) : Footprint W := fun _ e =>
  let s := e.decodedFor w
  placesIf (s.modrmDecoder.rawReg = 0#3) (s.operandPlaces w)

def pushes (n : Nat) : Footprint W := fun _ e => e.registers.pushes n

def pops (n : Nat) : Footprint W := fun _ e => e.registers.pops n

def interrupt (vector : Nat) : Footprint W := fun _ e =>
  e.registers.interrupt vector

def popOperand : Footprint W := fun _ e =>
  let s := e.decodedFor .OP_WIDTH_16
  placesIf (s.modrmDecoder.rawReg = 0#3)
    (e.registers.pops 1 ∪ s.operandPlaces .OP_WIDTH_16)

def farPointer : Footprint W := fun _ e =>
  (e.decodedFor .OP_WIDTH_16).pairPlaces

def bound : Footprint W := fun _ e =>
  let s := e.afterDecode
  s.pairPlaces ∪
    placesIf (s.modrmDecoder.rmType = .OP_MEM ∧ s.OutOfBounds)
      (e.registers.interrupt Vector.BOUND) ∪
    placesIf (s.modrmDecoder.rmType = .OP_REG)
      (e.registers.interrupt Vector.INVALID_OPCODE)

def enter : Footprint W := fun _ e =>
  e.registers.pushes (e.nest + 1) ∪ e.registers.display (e.nest - 1)

def leave : Footprint W := fun _ e =>
  {Place.word e.registers.ss e.registers.bp}

/-- The offset is the immediate word. -/
def direct (w : OperandWidth) : Footprint W := fun _ e =>
  {Place.operand w (getPhysAddr (e.registers.get e.operandSegment)
    (e.codeWord e.instrLength).toNat)}

/-- `XLAT` adds `AL` to `BX` without reducing the sum. -/
def table : Footprint W := fun _ e =>
  {Place.operand .OP_WIDTH_8 (getPhysAddr (e.registers.get e.operandSegment)
    (e.registers.bx.toNat + (e.registers.get .AL).toNat))}

def intImmediate : Footprint W := fun _ e =>
  e.registers.interrupt ((e.codeByte e.instrLength).toNat * 4)

def intOverflow : Footprint W := fun _ e =>
  placesIf (e.registers.getFlags &&& Flag.OF ≠ 0#16)
    (e.registers.interrupt Vector.OVERFLOW)

def adjust : Footprint W := fun _ e =>
  placesIf (e.codeByte e.instrLength = 0#8)
    (e.registers.interrupt Vector.DIVIDE_ERROR)

def escape : Footprint W := fun env e =>
  placesIf (env.trapEscape = true) (e.registers.interrupt Vector.ESCAPE)

/-- The groups F6 and F7. -/
def unary (w : OperandWidth) (is8Bit : Bool) : Footprint W := fun _ e =>
  let s := e.decodedFor w
  s.operandPlaces w ∪
    placesIf
      ((s.modrmDecoder.rawReg = 6#3 ∧ s.Overflows ⟨false, is8Bit⟩) ∨
        s.modrmDecoder.rawReg = 7#3 ∧ s.Overflows ⟨true, is8Bit⟩)
      (e.registers.interrupt Vector.DIVIDE_ERROR)

def groupFe : Footprint W := fun _ e =>
  let s := e.decodedFor .OP_WIDTH_8
  let r := s.modrmDecoder.rawReg
  placesIf (r = 0#3 ∨ r = 1#3) (s.operandPlaces .OP_WIDTH_8) ∪
    placesIf (r = 7#3) (e.registers.interrupt Vector.INVALID_OPCODE)

def groupFf : Footprint W := fun _ e =>
  let s := e.decodedFor .OP_WIDTH_16
  let r := s.modrmDecoder.rawReg
  placesIf (r = 0#3 ∨ r = 1#3 ∨ r = 2#3 ∨ r = 4#3 ∨ r = 6#3)
      (s.operandPlaces .OP_WIDTH_16) ∪
    placesIf (r = 2#3 ∨ r = 6#3) (e.registers.pushes 1) ∪
    placesIf (r = 3#3 ∧ s.modrmDecoder.rmType = .OP_MEM)
      (e.registers.pushes 2) ∪
    placesIf (r = 3#3 ∨ r = 5#3) s.dwordPlaces ∪
    placesIf (r = 7#3) (e.registers.interrupt Vector.INVALID_OPCODE)

def string (op : StringOp) (w : OperandWidth) : Footprint W := fun _ e =>
  e.stringPlaces w
    (if op.usesSi then some (e.registers.get e.operandSegment) else none)
    op.usesDi (e.ends w op)

def insString (w : OperandWidth) : Footprint W := fun _ e =>
  e.stringPlaces w none true fun _ => false

/-- The source of `OUTS` is in `DS` whatever the prefixes say. -/
def outsString (w : OperandWidth) : Footprint W := fun _ e =>
  e.stringPlaces w (some e.registers.ds) false fun _ => false

open OperandWidth

/-- A range of opcodes and what the handler of these touches. -/
structure Row (W : Type) where
  lo : Nat
  hi : Nat
  footprint : Footprint W

/-- The footprints of all handlers, in the order of the cases. -/
def rows : List (Row W) :=
  [
    ⟨0x06, 0x06, pushes 1⟩, ⟨0x0e, 0x0e, pushes 1⟩, ⟨0x16, 0x16, pushes 1⟩,
    ⟨0x1e, 0x1e, pushes 1⟩, ⟨0x0f, 0x0f, interrupt Vector.INVALID_OPCODE⟩,
    ⟨0x07, 0x07, pops 1⟩, ⟨0x17, 0x17, pops 1⟩, ⟨0x1f, 0x1f, pops 1⟩,
    ⟨0x00, 0x00, operand OP_WIDTH_8⟩, ⟨0x01, 0x01, operand OP_WIDTH_16⟩,
    ⟨0x02, 0x02, operand OP_WIDTH_8⟩, ⟨0x03, 0x03, operand OP_WIDTH_16⟩,
    ⟨0x04, 0x04, nothing⟩, ⟨0x05, 0x05, nothing⟩,
    ⟨0x08, 0x08, operand OP_WIDTH_8⟩, ⟨0x09, 0x09, operand OP_WIDTH_16⟩,
    ⟨0x0a, 0x0a, operand OP_WIDTH_8⟩, ⟨0x0b, 0x0b, operand OP_WIDTH_16⟩,
    ⟨0x0c, 0x0c, nothing⟩, ⟨0x0d, 0x0d, nothing⟩,
    ⟨0x10, 0x10, operand OP_WIDTH_8⟩, ⟨0x11, 0x11, operand OP_WIDTH_16⟩,
    ⟨0x12, 0x12, operand OP_WIDTH_8⟩, ⟨0x13, 0x13, operand OP_WIDTH_16⟩,
    ⟨0x14, 0x14, nothing⟩, ⟨0x15, 0x15, nothing⟩,
    ⟨0x18, 0x18, operand OP_WIDTH_8⟩, ⟨0x19, 0x19, operand OP_WIDTH_16⟩,
    ⟨0x1a, 0x1a, operand OP_WIDTH_8⟩, ⟨0x1b, 0x1b, operand OP_WIDTH_16⟩,
    ⟨0x1c, 0x1c, nothing⟩, ⟨0x1d, 0x1d, nothing⟩,
    ⟨0x20, 0x20, operand OP_WIDTH_8⟩, ⟨0x21, 0x21, operand OP_WIDTH_16⟩,
    ⟨0x22, 0x22, operand OP_WIDTH_8⟩, ⟨0x23, 0x23, operand OP_WIDTH_16⟩,
    ⟨0x24, 0x24, nothing⟩, ⟨0x25, 0x25, nothing⟩, ⟨0x27, 0x27, nothing⟩,
    ⟨0x28, 0x28, operand OP_WIDTH_8⟩, ⟨0x29, 0x29, operand OP_WIDTH_16⟩,
    ⟨0x2a, 0x2a, operand OP_WIDTH_8⟩, ⟨0x2b, 0x2b, operand OP_WIDTH_16⟩,
    ⟨0x2c, 0x2c, nothing⟩, ⟨0x2d, 0x2d, nothing⟩, ⟨0x2f, 0x2f, nothing⟩,
    ⟨0x30, 0x30, operand OP_WIDTH_8⟩, ⟨0x31, 0x31, operand OP_WIDTH_16⟩,
    ⟨0x32, 0x32, operand OP_WIDTH_8⟩, ⟨0x33, 0x33, operand OP_WIDTH_16⟩,
    ⟨0x34, 0x34, nothing⟩, ⟨0x35, 0x35, nothing⟩, ⟨0x37, 0x37, nothing⟩,
    ⟨0x38, 0x38, operand OP_WIDTH_8⟩, ⟨0x39, 0x39, operand OP_WIDTH_16⟩,
    ⟨0x3a, 0x3a, operand OP_WIDTH_8⟩, ⟨0x3b, 0x3b, operand OP_WIDTH_16⟩,
    ⟨0x3c, 0x3c, nothing⟩, ⟨0x3d, 0x3d, nothing⟩, ⟨0x3f, 0x3f, nothing⟩,
    ⟨0x40, 0x47, nothing⟩, ⟨0x48, 0x4f, nothing⟩, ⟨0x50, 0x57, pushes 1⟩,
    ⟨0x58, 0x5f, pops 1⟩, ⟨0x60, 0x60, pushes 8⟩, ⟨0x61, 0x61, pops 8⟩,
    ⟨0x62, 0x62, bound⟩, ⟨0x63, 0x63, interrupt Vector.INVALID_OPCODE⟩,
    ⟨0x64, 0x64, interrupt Vector.INVALID_OPCODE⟩,
    ⟨0x65, 0x65, interrupt Vector.INVALID_OPCODE⟩,
    ⟨0x66, 0x66, interrupt Vector.INVALID_OPCODE⟩,
    ⟨0x67, 0x67, interrupt Vector.INVALID_OPCODE⟩, ⟨0x68, 0x68, pushes 1⟩,
    ⟨0x69, 0x69, operand OP_WIDTH_16⟩, ⟨0x6a, 0x6a, pushes 1⟩,
    ⟨0x6b, 0x6b, operand OP_WIDTH_16⟩, ⟨0x6c, 0x6c, insString OP_WIDTH_8⟩,
    ⟨0x6d, 0x6d, insString OP_WIDTH_16⟩, ⟨0x6e, 0x6e, outsString OP_WIDTH_8⟩,
    ⟨0x6f, 0x6f, outsString OP_WIDTH_16⟩, ⟨0x70, 0x70, nothing⟩,
    ⟨0x71, 0x71, nothing⟩, ⟨0x72, 0x72, nothing⟩, ⟨0x73, 0x73, nothing⟩,
    ⟨0x74, 0x74, nothing⟩, ⟨0x75, 0x75, nothing⟩, ⟨0x76, 0x76, nothing⟩,
    ⟨0x77, 0x77, nothing⟩, ⟨0x78, 0x78, nothing⟩, ⟨0x79, 0x79, nothing⟩,
    ⟨0x7a, 0x7a, nothing⟩, ⟨0x7b, 0x7b, nothing⟩, ⟨0x7c, 0x7c, nothing⟩,
    ⟨0x7d, 0x7d, nothing⟩, ⟨0x7e, 0x7e, nothing⟩, ⟨0x7f, 0x7f, nothing⟩,
    ⟨0x80, 0x80, operand OP_WIDTH_8⟩, ⟨0x81, 0x81, operand OP_WIDTH_16⟩,
    ⟨0x82, 0x82, operand OP_WIDTH_8⟩, ⟨0x83, 0x83, operand OP_WIDTH_16⟩,
    ⟨0x84, 0x84, operand OP_WIDTH_8⟩, ⟨0x85, 0x85, operand OP_WIDTH_16⟩,
    ⟨0x86, 0x86, operand OP_WIDTH_8⟩, ⟨0x87, 0x87, operand OP_WIDTH_16⟩,
    ⟨0x88, 0x88, operand OP_WIDTH_8⟩, ⟨0x89, 0x89, operand OP_WIDTH_16⟩,
    ⟨0x8a, 0x8a, operand OP_WIDTH_8⟩, ⟨0x8b, 0x8b, operand OP_WIDTH_16⟩,
    ⟨0x8c, 0x8c, operand OP_WIDTH_16⟩, ⟨0x8d, 0x8d, nothing⟩,
    ⟨0x8e, 0x8e, operand OP_WIDTH_16⟩, ⟨0x8f, 0x8f, popOperand⟩,
    ⟨0x90, 0x97, nothing⟩, ⟨0x98, 0x98, nothing⟩, ⟨0x99, 0x99, nothing⟩,
    ⟨0x9a, 0x9a, pushes 2⟩, ⟨0x9b, 0x9b, nothing⟩, ⟨0x9c, 0x9c, pushes 1⟩,
    ⟨0x9d, 0x9d, pops 1⟩, ⟨0x9e, 0x9e, nothing⟩, ⟨0x9f, 0x9f, nothing⟩,
    ⟨0xa0, 0xa0, direct OP_WIDTH_8⟩, ⟨0xa1, 0xa1, direct OP_WIDTH_16⟩,
    ⟨0xa2, 0xa2, direct OP_WIDTH_8⟩, ⟨0xa3, 0xa3, direct OP_WIDTH_16⟩,
    ⟨0xa4, 0xa4, string .movs OP_WIDTH_8⟩,
    ⟨0xa5, 0xa5, string .movs OP_WIDTH_16⟩,
    ⟨0xa6, 0xa6, string .cmps OP_WIDTH_8⟩,
    ⟨0xa7, 0xa7, string .cmps OP_WIDTH_16⟩, ⟨0xa8, 0xa8, nothing⟩,
    ⟨0xa9, 0xa9, nothing⟩, ⟨0xaa, 0xaa, string .stos OP_WIDTH_8⟩,
    ⟨0xab, 0xab, string .stos OP_WIDTH_16⟩,
    ⟨0xac, 0xac, string .lods OP_WIDTH_8⟩,
    ⟨0xad, 0xad, string .lods OP_WIDTH_16⟩,
    ⟨0xae, 0xae, string .scas OP_WIDTH_8⟩,
    ⟨0xaf, 0xaf, string .scas OP_WIDTH_16⟩, ⟨0xb0, 0xb7, nothing⟩,
    ⟨0xb8, 0xbf, nothing⟩, ⟨0xc0, 0xc0, operand OP_WIDTH_8⟩,
    ⟨0xc1, 0xc1, operand OP_WIDTH_16⟩, ⟨0xc2, 0xc2, pops 1⟩,
    ⟨0xc3, 0xc3, pops 1⟩, ⟨0xc4, 0xc4, farPointer⟩, ⟨0xc5, 0xc5, farPointer⟩,
    ⟨0xc6, 0xc6, immediateMove OP_WIDTH_8⟩,
    ⟨0xc7, 0xc7, immediateMove OP_WIDTH_16⟩, ⟨0xc8, 0xc8, enter⟩,
    ⟨0xc9, 0xc9, leave⟩, ⟨0xca, 0xca, pops 2⟩, ⟨0xcb, 0xcb, pops 2⟩,
    ⟨0xcc, 0xcc, interrupt Vector.INT⟩, ⟨0xcd, 0xcd, intImmediate⟩,
    ⟨0xce, 0xce, intOverflow⟩, ⟨0xcf, 0xcf, pops 3⟩,
    ⟨0xd0, 0xd0, operand OP_WIDTH_8⟩, ⟨0xd1, 0xd1, operand OP_WIDTH_16⟩,
    ⟨0xd2, 0xd2, operand OP_WIDTH_8⟩, ⟨0xd3, 0xd3, operand OP_WIDTH_16⟩,
    ⟨0xd4, 0xd4, adjust⟩, ⟨0xd5, 0xd5, nothing⟩, ⟨0xd6, 0xd6, nothing⟩,
    ⟨0xd7, 0xd7, table⟩, ⟨0xd8, 0xdf, escape⟩, ⟨0xe0, 0xe0, nothing⟩,
    ⟨0xe1, 0xe1, nothing⟩, ⟨0xe2, 0xe2, nothing⟩, ⟨0xe3, 0xe3, nothing⟩,
    ⟨0xe4, 0xe4, nothing⟩, ⟨0xe5, 0xe5, nothing⟩, ⟨0xe6, 0xe6, nothing⟩,
    ⟨0xe7, 0xe7, nothing⟩, ⟨0xe8, 0xe8, pushes 1⟩, ⟨0xe9, 0xe9, nothing⟩,
    ⟨0xea, 0xea, nothing⟩, ⟨0xeb, 0xeb, nothing⟩, ⟨0xec, 0xec, nothing⟩,
    ⟨0xed, 0xed, nothing⟩, ⟨0xee, 0xee, nothing⟩, ⟨0xef, 0xef, nothing⟩,
    ⟨0xf1, 0xf1, interrupt Vector.INVALID_OPCODE⟩, ⟨0xf4, 0xf4, nothing⟩,
    ⟨0xf5, 0xf5, nothing⟩, ⟨0xf6, 0xf6, unary OP_WIDTH_8 true⟩,
    ⟨0xf7, 0xf7, unary OP_WIDTH_16 false⟩, ⟨0xf8, 0xf8, nothing⟩,
    ⟨0xf9, 0xf9, nothing⟩, ⟨0xfa, 0xfa, nothing⟩, ⟨0xfb, 0xfb, nothing⟩,
    ⟨0xfc, 0xfc, nothing⟩, ⟨0xfd, 0xfd, nothing⟩, ⟨0xfe, 0xfe, groupFe⟩,
    ⟨0xff, 0xff, groupFf⟩
  ]

def Row.covers (r : Row W) (opcode : BitVec 8) : Bool :=
  r.lo ≤ opcode.toNat && opcode.toNat ≤ r.hi

/-- The footprint of the handler of an opcode. -/
def ofOpcode (opcode : BitVec 8) : Footprint W :=
  ((rows.find? fun r => r.covers opcode).map Row.footprint).getD nothing

end Footprint
end Sim
end S80x86
